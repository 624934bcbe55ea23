import Cupping.Text.Utf8
import Mathlib.Data.List.Basic
import Mathlib.Data.List.Induction
import Mathlib.Tactic.SplitIfs

/-!
What UTF-8 writes, decoding reads. A character below 128 is its own byte, and the bytes of any other
are all above that, so that line ends and separators are found without decoding.
-/

namespace Cupping.Text.Utf8

theorem start_ascii {byte : Nat} (small : byte < 0x80) :
    start byte = ([some (Char.ofNat byte)], .ready) :=
  if_pos small

/-- Two bytes hold at least 128. -/
theorem start_two {value : Nat} (least : 2 ≤ value) (most : value < 0x20) :
    start (value + 0xC0) = ([], .inside value 0 0x80 0xBF) := by
  unfold start
  rw [if_neg (by omega), if_pos (by omega), Nat.add_sub_cancel]

/-- Three bytes hold at least 2048, and no surrogate. -/
theorem start_three {value : Nat} (most : value < 0x10) :
    start (value + 0xE0) = ([], .inside value 1 (if value = 0 then 0xA0 else 0x80)
      (if value = 0xD then 0x9F else 0xBF)) := by
  decide +revert

/-- Four bytes hold at least 65536, and nothing above the last character. -/
theorem start_four {value : Nat} (most : value < 5) :
    start (value + 0xF0) = ([], .inside value 2 (if value = 0 then 0x90 else 0x80)
      (if value = 4 then 0x8F else 0xBF)) := by
  decide +revert

theorem decodeFrom_ready {byte : Nat} {rest : List UInt8} {output : List (Option Char)}
    {next : State} (small : byte < 0x100) (started : start byte = (output, next)) :
    decodeFrom .ready (UInt8.ofNat byte :: rest) = output ++ decodeFrom next rest := by
  have whole : (UInt8.ofNat byte).toNat = byte := UInt8.toNat_ofNat_of_lt' small
  simp only [decodeFrom, step, whole, started]

section Continuing

variable {value low high added : Nat} {rest : List UInt8}

/-- A byte that continues a character adds its six bits to it, and the last one ends it. -/
theorem decodeFrom_last (least : low ≤ added + 0x80) (most : added + 0x80 ≤ high)
    (six : added < 0x40) :
    decodeFrom (.inside value 0 low high) (UInt8.ofNat (added + 0x80) :: rest) =
      some (Char.ofNat (value * 64 + added)) :: decodeFrom .ready rest := by
  have whole : (UInt8.ofNat (added + 0x80)).toNat = added + 0x80 :=
    UInt8.toNat_ofNat_of_lt' (show added + 0x80 < 0x100 by omega)
  simp only [decodeFrom, step, whole, if_pos (And.intro least most), Nat.add_sub_cancel]
  rfl

theorem decodeFrom_more {more : Nat} (least : low ≤ added + 0x80) (most : added + 0x80 ≤ high)
    (six : added < 0x40) :
    decodeFrom (.inside value (more + 1) low high) (UInt8.ofNat (added + 0x80) :: rest) =
      decodeFrom (.inside (value * 64 + added) more 0x80 0xBF) rest := by
  have whole : (UInt8.ofNat (added + 0x80)).toNat = added + 0x80 :=
    UInt8.toNat_ofNat_of_lt' (show added + 0x80 < 0x100 by omega)
  simp only [decodeFrom, step, whole, if_pos (And.intro least most), Nat.add_sub_cancel]
  rfl

end Continuing

theorem decodeFrom_encodeChar (char : Char) (rest : List UInt8) :
    decodeFrom .ready (String.utf8EncodeChar char ++ rest) =
      some char :: decodeFrom .ready rest := by
  have valid : char.val.toNat < 0xD800 ∨ 0xDFFF < char.val.toNat ∧ char.val.toNat < 0x110000 :=
    char.valid
  have same : Char.ofNat char.val.toNat = char := Char.ofNat_toNat char
  unfold String.utf8EncodeChar
  generalize char.val.toNat = value at valid same
  dsimp only
  by_cases one : value ≤ 0x7F
  · rw [if_pos one, List.singleton_append,
      decodeFrom_ready (by omega) (start_ascii (by omega)), same]
    rfl
  rw [if_neg one]
  by_cases two : value ≤ 0x7FF
  · rw [if_pos two, List.cons_append, List.singleton_append,
      decodeFrom_ready (by omega) (start_two (by omega) (by omega)), List.nil_append,
      decodeFrom_last (by omega) (by omega) (by omega)]
    have whole : value / 64 % 0x20 * 64 + value % 0x40 = value := by omega
    rw [whole, same]
  rw [if_neg two]
  by_cases three : value ≤ 0xFFFF
  · rw [if_pos three, List.cons_append, List.cons_append, List.singleton_append,
      decodeFrom_ready (by omega) (start_three (by omega)), List.nil_append,
      decodeFrom_more (by split <;> omega) (by split <;> omega) (by omega),
      decodeFrom_last (by omega) (by omega) (by omega)]
    have whole : (value / 4096 % 0x10 * 64 + value / 64 % 0x40) * 64 + value % 0x40 = value := by
      omega
    rw [whole, same]
  · rw [if_neg three, List.cons_append, List.cons_append, List.cons_append, List.singleton_append,
      decodeFrom_ready (by omega) (start_four (by omega)), List.nil_append,
      decodeFrom_more (by split <;> omega) (by split <;> omega) (by omega),
      decodeFrom_more (by omega) (by omega) (by omega),
      decodeFrom_last (by omega) (by omega) (by omega)]
    have whole : ((value / 262144 % 0x8 * 64 + value / 4096 % 0x40) * 64 + value / 64 % 0x40) * 64
        + value % 0x40 = value := by
      omega
    rw [whole, same]

theorem decode_encode (text : List Char) : decode (encode text) = text.map some := by
  induction text with
  | nil => rfl
  | cons char rest ih =>
    rw [decode, encode, List.flatMap_cons, decodeFrom_encodeChar, List.map_cons]
    exact congrArg (some char :: ·) ih

theorem lossy_encode (text : List Char) : lossy (encode text) = text := by
  rw [lossy, decode_encode, List.map_map]
  exact List.map_id text

theorem encode_append (text more : List Char) :
    encode (text ++ more) = encode text ++ encode more :=
  List.flatMap_append

/-- A byte below 128 stands for its own character and occurs in no other. -/
theorem eq_of_mem_encodeChar {char : Char} {byte : UInt8} (small : byte.toNat < 0x80)
    (member : byte ∈ String.utf8EncodeChar char) : char = Char.ofNat byte.toNat := by
  have bound : char.val.toNat < 0x110000 := by
    rcases char.valid with below | above <;> omega
  have same : Char.ofNat char.val.toNat = char := Char.ofNat_toNat char
  have high {value : Nat} (least : 0x80 ≤ value) (most : value < 0x100)
      (written : byte = UInt8.ofNat value) : False := by
    have whole : (UInt8.ofNat value).toNat = value := UInt8.toNat_ofNat_of_lt' most
    rw [written, whole] at small
    omega
  unfold String.utf8EncodeChar at member
  generalize char.val.toNat = value at bound same member
  dsimp only at member
  split_ifs at member with one two three
  · obtain rfl := List.mem_singleton.mp member
    have whole : (UInt8.ofNat value).toNat = value :=
      UInt8.toNat_ofNat_of_lt' (show value < 0x100 by omega)
    rw [whole, same]
  all_goals
    simp only [List.mem_cons, List.not_mem_nil, or_false] at member
  · rcases member with written | written <;>
      exact (high (by omega) (by omega) written).elim
  · rcases member with written | written | written <;>
      exact (high (by omega) (by omega) written).elim
  · rcases member with written | written | written | written <;>
      exact (high (by omega) (by omega) written).elim

theorem mem_encode_ascii {byte : UInt8} (small : byte.toNat < 0x80) {text : List Char}
    (member : byte ∈ encode text) : Char.ofNat byte.toNat ∈ text := by
  obtain ⟨char, held, inside⟩ := List.mem_flatMap.mp member
  rwa [← eq_of_mem_encodeChar small inside]

/-- A text whose last byte is below 128 ends with that character. -/
theorem getLast?_encode_ascii {byte : UInt8} (small : byte.toNat < 0x80) {text : List Char}
    (last : (encode text).getLast? = some byte) :
    text.getLast? = some (Char.ofNat byte.toNat) := by
  induction text using List.reverseRecOn with
  | nil => simp [encode] at last
  | append_singleton before char =>
    have single : encode [char] = String.utf8EncodeChar char := by simp [encode]
    rw [encode_append, single,
      List.getLast?_append_of_ne_nil _ String.utf8EncodeChar_ne_nil] at last
    rw [List.getLast?_concat, eq_of_mem_encodeChar small (List.mem_of_getLast? last)]

end Cupping.Text.Utf8
