import Cupping.Http.Service
import Cupping.Proofs.RunId
import Cupping.Proofs.Text.Lines
import Mathlib.Data.List.DropRight

/-!
Where the requests of a client go. What is put behind the address of a service does not change where
the service is, and an address without a query is the root of the paths of all calls.
-/

namespace Cupping

theorem Settings.trimSlashes_trimSlashes (address : String) :
    trimSlashes (trimSlashes address) = trimSlashes address := by
  rw [trimSlashes, trimSlashes, String.toList_ofList]
  exact congrArg String.ofList (List.rdropWhile_idempotent _ address.toList)

namespace Http

namespace Url

/-! An address is cut behind its host; what follows is not looked at before. -/

/-- The origin in a text behind a scheme, and what stands behind the host. -/
def cutHost? (scheme : String) (text : List Char) : Option (String × List Char) :=
  let text := dropSlashes text
  let host := text.takeWhile (!endsHost ·)
  if host.isEmpty then none
  else some (scheme ++ "://" ++ String.ofList host, text.dropWhile (!endsHost ·))

/-- The origin in an address, and what stands behind the host. -/
def cut? (text : List Char) : Option (String × List Char) :=
  let scheme := String.ofList ((text.takeWhile (· ≠ ':')).map Char.toLower)
  if scheme = "http" || scheme = "https" then
    cutHost? scheme ((text.dropWhile (· ≠ ':')).drop 1)
  else none

/-- The path in what stands behind the host, before it is brought into its form. -/
def pathOf (tail : List Char) : List Char :=
  (tail.takeWhile (· ≠ '#')).takeWhile (· ≠ '?')

def queryOf (tail : List Char) : Option String :=
  match (tail.takeWhile (· ≠ '#')).dropWhile (· ≠ '?') with
  | [] => none
  | _ :: query => some (String.ofList (percentEncode querySpecial query))

/-- The address with an origin and what stands behind it. -/
def locate (origin : String) (tail : List Char) : Url :=
  ⟨origin, String.ofList (normalPath (pathOf tail)), queryOf tail⟩

theorem parse?_eq (text : String) :
    parse? text = (cut? (counted text.toList)).map fun cut => locate cut.1 cut.2 := by
  simp only [parse?, cut?]
  split
  · simp only [ofScheme?, cutHost?]
    split <;> rfl
  · rfl

/-- What follows a text leaves its front part as it is, if that part ends in the text. -/
theorem span_append (p : Char → Bool) (text rest : List Char)
    (ends : text.dropWhile p = [] → rest.takeWhile p = []) :
    (text ++ rest).takeWhile p = text.takeWhile p ∧
      (text ++ rest).dropWhile p = text.dropWhile p ++ rest := by
  induction text with
  | nil =>
    have nothing := ends rfl
    have whole := List.takeWhile_append_dropWhile (p := p) (l := rest)
    rw [nothing, List.nil_append] at whole
    exact ⟨nothing, whole⟩
  | cons c text ih =>
    rw [List.dropWhile_cons] at ends
    simp only [List.cons_append, List.takeWhile_cons, List.dropWhile_cons]
    split
    · rename_i passed
      obtain ⟨front, back⟩ := ih fun nothing => ends (by rw [if_pos passed, nothing])
      exact ⟨by rw [front], back⟩
    · exact ⟨rfl, rfl⟩

theorem counted_append {text rest : List Char} (filled : counted text ≠ [])
    (plain : ∀ c ∈ rest, c ≠ '\t' ∧ c ≠ '\n' ∧ c ≠ '\r') :
    counted (text ++ rest) = counted text ++ rest := by
  have ahead : text.dropWhile (·.toNat ≤ 0x20) ≠ [] := by
    intro nothing
    exact filled (by rw [counted, nothing, List.filter_nil])
  have kept : rest.filter (fun c => c ≠ '\t' && c ≠ '\n' && c ≠ '\r') = rest :=
    List.filter_eq_self.mpr fun c member => by simp [plain c member]
  rw [counted, (span_append _ text rest fun nothing => absurd nothing ahead).2, List.filter_append,
    kept, counted]

/-- A path behind a text does not change the origin in it. -/
theorem cutHost?_append {scheme origin : String} {text tail : List Char}
    (cut : cutHost? scheme text = some (origin, tail)) (rest : List Char) :
    text ≠ [] ∧ cutHost? scheme (text ++ '/' :: rest) = some (origin, tail ++ '/' :: rest) := by
  simp only [cutHost?] at cut
  split at cut
  · cases cut
  · rename_i filled
    have host : dropSlashes text ≠ [] := by
      intro nothing
      exact filled (by rw [nothing]; rfl)
    have slashes : dropSlashes (text ++ '/' :: rest) = dropSlashes text ++ '/' :: rest :=
      (span_append _ text ('/' :: rest) fun nothing => absurd nothing host).2
    obtain ⟨name, after⟩ := span_append (!endsHost ·) (dropSlashes text) ('/' :: rest) fun _ => rfl
    refine ⟨fun nothing => host (by rw [nothing]; rfl), ?_⟩
    simp only [cutHost?, slashes, name, after, if_neg filled]
    cases cut
    rfl

theorem cut?_append {origin : String} {text tail : List Char}
    (cut : cut? text = some (origin, tail)) (rest : List Char) :
    text ≠ [] ∧ cut? (text ++ '/' :: rest) = some (origin, tail ++ '/' :: rest) := by
  simp only [cut?] at cut
  split at cut
  · rename_i known
    obtain ⟨behind, longer⟩ := cutHost?_append cut rest
    have colon : text.dropWhile (· ≠ ':') ≠ [] := by
      intro nothing
      exact behind (by rw [nothing]; rfl)
    obtain ⟨scheme, more⟩ := span_append (· ≠ ':') text ('/' :: rest)
      fun nothing => absurd nothing colon
    refine ⟨fun nothing => colon (by rw [nothing]; rfl), ?_⟩
    simp only [cut?, scheme, more, if_pos known]
    rw [List.drop_append_of_le_length (List.length_pos_iff.mpr colon), longer]
  · cases cut

/-- What stands behind the host is a part of the text, and starts where the host ends. -/
theorem tail_of_cut? {origin : String} {text tail : List Char}
    (cut : cut? text = some (origin, tail)) :
    (∀ c ∈ tail, c ∈ text) ∧ ∀ c ∈ tail.head?, endsHost c = true := by
  simp only [cut?] at cut
  split at cut
  · simp only [cutHost?] at cut
    split at cut
    · cases cut
    · cases cut
      refine ⟨fun c member => ?_, fun c first => ?_⟩
      · have inside := (List.dropWhile_sublist _).subset member
        have inside := (List.dropWhile_sublist _).subset inside
        exact (List.dropWhile_sublist _).subset (List.mem_of_mem_drop inside)
      · have failed := List.head?_dropWhile_not (!endsHost ·)
          (dropSlashes ((text.dropWhile (· ≠ ':')).drop 1))
        rw [Option.mem_def.mp first] at failed
        simpa using failed
  · cases cut

/-! Parts of a path that are nothing but names stay as they are. -/

/-- Characters that have no meaning in a path. -/
def plainChars : List Char := "abcdefghijklmnopqrstuvwxyz0123456789-_".toList

def isPlainChar (c : Char) : Bool :=
  plainChars.contains c

theorem of_isPlainChar {p : Char → Bool} (all : plainChars.all p = true) {c : Char}
    (plain : isPlainChar c = true) : p c = true :=
  List.all_eq_true.mp all c (List.contains_iff_mem.mp plain)

/-- Whether a part of a path is just a name. -/
def IsName (part : List Char) : Prop :=
  ∀ c ∈ part, isPlainChar c = true

instance (part : List Char) : Decidable (IsName part) :=
  decidable_of_iff _ List.all_eq_true

/-- The path with some parts. -/
def joinParts (parts : List (List Char)) : List Char :=
  parts.flatMap fun part => '/' :: part

namespace IsName

variable {part : List Char}

theorem notMem (name : IsName part) {c : Char} (special : isPlainChar c = false) : c ∉ part := by
  intro member
  rw [name c member] at special
  cases special

theorem map_toLower (name : IsName part) : part.map Char.toLower = part := by
  have lower : plainChars.all (fun c => c.toLower = c) = true := by decide
  have same : ∀ c ∈ part, c.toLower = c :=
    fun c member => of_decide_eq_true (of_isPlainChar lower (name c member))
  exact (List.map_congr_left same).trans (List.map_id _)

theorem ofList_ne (name : IsName part) {text : String} {c : Char} (member : c ∈ text.toList)
    (special : isPlainChar c = false) : String.ofList part ≠ text := by
  rintro rfl
  rw [String.toList_ofList] at member
  exact name.notMem special member

/-- A name is no way to say "here" or "up". -/
theorem isHere (name : IsName part) : isHere part = false := by
  have dot : String.ofList part ≠ "." := name.ofList_ne (c := '.') (by decide) rfl
  have code : String.ofList part ≠ "%2e" := name.ofList_ne (c := '%') (by decide) rfl
  simp [Url.isHere, name.map_toLower, dot, code]

theorem isUp (name : IsName part) : isUp part = false := by
  have up (text : String) (first : text.toList.head? = some '.' ∨ text.toList.head? = some '%') :
      String.ofList part ≠ text := by
    rcases first with first | first
    all_goals exact name.ofList_ne (List.mem_of_head? first) rfl
  simp [Url.isUp, name.map_toLower, up ".." (.inl rfl), up ".%2e" (.inl rfl), up "%2e." (.inr rfl),
    up "%2e%2e" (.inr rfl)]

theorem percentEncode (name : IsName part) : percentEncode pathSpecial part = part := by
  have ordinary : plainChars.all (fun c => !(c.toNat ≤ 0x20 || 0x7F ≤ c.toNat ||
      pathSpecial.contains c)) = true := by decide
  have kept : ∀ c ∈ part, (if c.toNat ≤ 0x20 || 0x7F ≤ c.toNat || pathSpecial.contains c then
      (String.utf8EncodeChar c).flatMap percentByte else [c]) = [c] := fun c member =>
    if_neg (Bool.eq_false_iff.mp (Bool.not_eq_true' _ ▸ of_isPlainChar ordinary (name c member)))
  rw [Url.percentEncode, List.flatMap_congr kept, List.flatMap_singleton']

end IsName

/-! The path of an address with parts behind it. -/

/-- The parts of a path before they are resolved. -/
def partsOf (text : List Char) : List (List Char) :=
  let slashes := text.map fun c => if c = '\\' then '/' else c
  Text.splitAt '/' (if slashes.head? = some '/' then slashes.drop 1 else slashes)

theorem splitAt_append_joinParts (text : List Char) {parts : List (List Char)}
    (names : ∀ part ∈ parts, IsName part) :
    Text.splitAt '/' (text ++ joinParts parts) = Text.splitAt '/' text ++ parts := by
  induction parts generalizing text with
  | nil => simp [joinParts]
  | cons part parts ih =>
    obtain ⟨first, others⟩ := List.forall_mem_cons.mp names
    have alone : Text.splitAt '/' part = [part] := by
      rw [Text.splitAt_eq_splitOn, List.splitOn_eq_singleton (first.notMem rfl)]
    have behind : joinParts (part :: parts) = '/' :: (part ++ joinParts parts) := rfl
    rw [behind, Text.splitAt_append_cons, ih part others, alone, List.singleton_append]

/-- Slashes and names are all there is in a path of names. -/
theorem notMem_joinParts {parts : List (List Char)} (names : ∀ part ∈ parts, IsName part)
    {c : Char} (other : c ≠ '/') (special : isPlainChar c = false) : c ∉ joinParts parts := by
  intro member
  obtain ⟨part, listed, inside⟩ := List.mem_flatMap.mp member
  rcases List.mem_cons.mp inside with same | inside
  · exact other same
  · exact (names part listed).notMem special inside

theorem partsOf_append {tail : List Char} (opens : ∀ c ∈ tail.head?, c = '/' ∨ c = '\\') :
    ∃ before, ∀ parts, (∀ part ∈ parts, IsName part) → parts ≠ [] →
      partsOf (tail ++ joinParts parts) = before ++ parts := by
  have turned {parts : List (List Char)} (names : ∀ part ∈ parts, IsName part) :
      (joinParts parts).map (fun c => if c = '\\' then '/' else c) = joinParts parts := by
    refine (List.map_congr_left fun c member => if_neg ?_).trans (List.map_id _)
    rintro rfl
    exact notMem_joinParts names (by decide) rfl member
  cases tail with
  | nil =>
    -- Right behind the host the slash of the first part is the one that is taken off.
    refine ⟨[], fun parts names filled => ?_⟩
    obtain ⟨first, others, rfl⟩ := List.exists_cons_of_ne_nil filled
    have alone := splitAt_append_joinParts first fun part member =>
      names part (List.mem_cons_of_mem first member)
    rw [Text.splitAt_eq_splitOn '/' first,
      List.splitOn_eq_singleton ((names first List.mem_cons_self).notMem rfl)] at alone
    rw [partsOf, List.nil_append, turned names]
    exact alone
  | cons c tail =>
    have slash : (if c = '\\' then '/' else c) = '/' := by
      rcases opens c rfl with rfl | rfl <;> rfl
    refine ⟨Text.splitAt '/' (tail.map fun c => if c = '\\' then '/' else c),
      fun parts names _ => ?_⟩
    simp only [partsOf, List.cons_append, List.map_cons, List.map_append, slash, turned names,
      List.head?_cons, if_true, List.drop_succ_cons, List.drop_zero]
    exact splitAt_append_joinParts _ names

theorem resolve_names {parts : List (List Char)} (names : ∀ part ∈ parts, IsName part)
    (above : List (List Char)) : resolve above parts = above.reverse ++ parts := by
  induction parts generalizing above with
  | nil => rw [resolve, List.append_nil]
  | cons part parts ih =>
    obtain ⟨first, others⟩ := List.forall_mem_cons.mp names
    rw [resolve, first.isHere, first.isUp, if_neg Bool.false_ne_true, if_neg Bool.false_ne_true,
      ih others, List.reverse_cons, List.append_assoc, List.singleton_append]

theorem exists_resolve_cons (part : List Char) (above : List (List Char)) :
    ∃ next, ∀ rest, rest ≠ [] → resolve above (part :: rest) = resolve next rest := by
  by_cases here : isHere part = true
  · refine ⟨above, fun rest filled => ?_⟩
    rw [resolve, if_pos here, List.isEmpty_eq_false_iff.mpr filled]
    rfl
  · by_cases up : isUp part = true
    · refine ⟨above.drop 1, fun rest filled => ?_⟩
      rw [resolve, if_neg here, if_pos up, List.isEmpty_eq_false_iff.mpr filled]
      rfl
    · exact ⟨part :: above, fun rest _ => by rw [resolve, if_neg here, if_neg up]⟩

/-- Names are the last thing that a path is resolved to, whatever comes before them. -/
theorem exists_resolve (before above : List (List Char)) :
    ∃ higher, ∀ parts, (∀ part ∈ parts, IsName part) → parts ≠ [] →
      resolve above (before ++ parts) = higher ++ parts := by
  induction before generalizing above with
  | nil => exact ⟨above.reverse, fun parts names _ => resolve_names names above⟩
  | cons part before ih =>
    obtain ⟨next, first⟩ := exists_resolve_cons part above
    obtain ⟨higher, resolved⟩ := ih next
    refine ⟨higher, fun parts names filled => ?_⟩
    rw [List.cons_append, first _ (List.append_ne_nil_of_right_ne_nil before filled),
      resolved parts names filled]

theorem exists_normalPath {tail : List Char} (opens : ∀ c ∈ tail.head?, c = '/' ∨ c = '\\') :
    ∃ root, ∀ parts, (∀ part ∈ parts, IsName part) → parts ≠ [] →
      normalPath (tail ++ joinParts parts) = root ++ joinParts parts := by
  obtain ⟨before, cut⟩ := partsOf_append opens
  obtain ⟨higher, resolved⟩ := exists_resolve before []
  refine ⟨higher.flatMap fun part => '/' :: percentEncode pathSpecial part,
    fun parts names filled => ?_⟩
  have whole : partsOf (tail ++ joinParts parts) = before ++ parts := cut parts names filled
  have kept : parts.flatMap (fun part => '/' :: percentEncode pathSpecial part) =
      joinParts parts :=
    List.flatMap_congr fun part member => by rw [(names part member).percentEncode]
  change (resolve [] (partsOf (tail ++ joinParts parts))).flatMap _ = _
  rw [whole, resolved parts names filled, List.flatMap_append, kept]

/-- Whether an address has neither a query nor a fragment. -/
def IsBare (address : String) : Prop :=
  ∀ c ∈ address.toList, c ≠ '?' ∧ c ≠ '#'

theorem pathOf_of_bare {tail : List Char} (bare : ∀ c ∈ tail, c ≠ '?' ∧ c ≠ '#') :
    pathOf tail = tail ∧ queryOf tail = none := by
  have whole : tail.takeWhile (· ≠ '#') = tail :=
    List.takeWhile_eq_self_iff.mpr fun c member => decide_eq_true (bare c member).2
  have path : ∀ c ∈ tail, decide (c ≠ '?') = true :=
    fun c member => decide_eq_true (bare c member).1
  refine ⟨?_, ?_⟩
  · rw [pathOf, whole, List.takeWhile_eq_self_iff.mpr path]
  · rw [queryOf, whole, List.dropWhile_eq_nil_iff.mpr path]

/-- The path with some parts, as it is put behind an address. -/
def subpath (parts : List String) : String :=
  String.ofList (joinParts (parts.map String.toList))

theorem cut?_subpath {address origin : String} {tail : List Char} {parts : List String}
    (cut : cut? (counted address.toList) = some (origin, tail))
    (names : ∀ part ∈ parts.map String.toList, IsName part) (filled : parts ≠ []) :
    cut? (counted (address ++ subpath parts).toList) =
      some (origin, tail ++ joinParts (parts.map String.toList)) := by
  have plain : ∀ c ∈ joinParts (parts.map String.toList), c ≠ '\t' ∧ c ≠ '\n' ∧ c ≠ '\r' := by
    intro c member
    refine ⟨?_, ?_, ?_⟩
    all_goals
      rintro rfl
      exact notMem_joinParts names (by decide) rfl member
  obtain ⟨first, others, rfl⟩ := List.exists_cons_of_ne_nil filled
  have opened : joinParts ((first :: others).map String.toList) =
      '/' :: (first.toList ++ joinParts (others.map String.toList)) := rfl
  obtain ⟨something, appended⟩ := cut?_append cut
    (first.toList ++ joinParts (others.map String.toList))
  rw [String.toList_append, subpath, String.toList_ofList, counted_append something plain, opened,
    appended]

/-- A path behind an address does not change where the service is. Without a query in the address
it is the end of the path that is requested, and what comes before it is the same for all paths. -/
theorem exists_root {address : String} {url : Url} (parsed : parse? address = some url) :
    ∃ root : String, ∀ parts : List String, (∀ part ∈ parts, IsName part.toList) → parts ≠ [] →
      ∃ other, parse? (address ++ subpath parts) = some other ∧ other.origin = url.origin ∧
        (IsBare address → other.path = root ++ subpath parts ∧ other.query = none) := by
  rw [parse?_eq] at parsed
  obtain ⟨⟨origin, tail⟩, cut, rfl⟩ := Option.map_eq_some_iff.mp parsed
  have located {parts : List String} (named : ∀ part ∈ parts, IsName part.toList)
      (filled : parts ≠ []) : parse? (address ++ subpath parts) =
        some (locate origin (tail ++ joinParts (parts.map String.toList))) := by
    rw [parse?_eq, cut?_subpath cut (List.forall_mem_map.mpr named) filled, Option.map_some]
  by_cases bare : IsBare address
  · obtain ⟨within, opens⟩ := tail_of_cut? cut
    have inside : ∀ c ∈ tail, c ≠ '?' ∧ c ≠ '#' := fun c member =>
      bare c ((List.dropWhile_sublist _).subset (List.mem_of_mem_filter (within c member)))
    have slashes : ∀ c ∈ tail.head?, c = '/' ∨ c = '\\' := by
      intro c first
      have ends := opens c first
      simpa [endsHost, inside c (List.mem_of_head? first)] using ends
    obtain ⟨root, normal⟩ := exists_normalPath slashes
    refine ⟨String.ofList root, fun parts named filled =>
      ⟨_, located named filled, rfl, fun _ => ?_⟩⟩
    have names : ∀ part ∈ parts.map String.toList, IsName part := List.forall_mem_map.mpr named
    have plain : ∀ c ∈ joinParts (parts.map String.toList), c ≠ '?' ∧ c ≠ '#' := by
      intro c member
      refine ⟨?_, ?_⟩
      all_goals
        rintro rfl
        exact notMem_joinParts names (by decide) rfl member
    obtain ⟨path, query⟩ := pathOf_of_bare (List.forall_mem_append.mpr ⟨inside, plain⟩)
    refine ⟨?_, query⟩
    rw [locate, path, normal _ names (by simpa using filled), String.ofList_append, subpath]
  · exact ⟨"", fun parts named filled =>
      ⟨_, located named filled, rfl, fun without => absurd without bare⟩⟩

end Url

namespace Client

open Tracking (Call)

/-! The request for a call: its kind, the parts of its path, and its data. -/

def methodOf : Call → Method
  | .getRun _ | .listRuns => .get
  | .startRun _ | .submitScore .. => .post

def partsOf : Call → List String
  | .getRun id => ["optimizer", "runs", id.write]
  | .listRuns => ["optimizer", "runs"]
  | .startRun _ => ["optimizer", "runs", "start"]
  | .submitScore id _ => ["optimizer", "runs", id.write, "submit_score"]

def dataOf : Call → Option Json.Value
  | .getRun _ | .listRuns => none
  | .startRun request => some request.toJson
  | .submitScore _ request => some request.toJson

theorem isName_write (id : RunId) : Url.IsName id.write.toList := by
  have digits : ∀ digit, Url.isPlainChar (RunId.writeDigit digit) = true := by decide
  intro c member
  rcases RunId.mem_write member with rfl | ⟨digit, rfl⟩
  · rfl
  · exact digits digit

theorem isName_partsOf (call : Call) : ∀ part ∈ partsOf call, Url.IsName part.toList := by
  have optimizer : Url.IsName "optimizer".toList := by decide
  have runs : Url.IsName "runs".toList := by decide
  have start : Url.IsName "start".toList := by decide
  have submit : Url.IsName "submit_score".toList := by decide
  cases call with
  | getRun id =>
    simp only [partsOf, List.forall_mem_cons]
    exact ⟨optimizer, runs, isName_write id, List.forall_mem_nil _⟩
  | listRuns =>
    simp only [partsOf, List.forall_mem_cons]
    exact ⟨optimizer, runs, List.forall_mem_nil _⟩
  | startRun request =>
    simp only [partsOf, List.forall_mem_cons]
    exact ⟨optimizer, runs, start, List.forall_mem_nil _⟩
  | submitScore id request =>
    simp only [partsOf, List.forall_mem_cons]
    exact ⟨optimizer, runs, isName_write id, submit, List.forall_mem_nil _⟩

theorem subpath_run (id : RunId) :
    Url.subpath ["optimizer", "runs", id.write] = runPath id := by
  apply String.toList_injective
  simp [Url.subpath, Url.joinParts, runPath]

theorem subpath_scores (id : RunId) :
    Url.subpath ["optimizer", "runs", id.write, "submit_score"] =
      runPath id ++ "/submit_score" := by
  apply String.toList_injective
  simp [Url.subpath, Url.joinParts, runPath]

/-- Calls differ in their kind, their path and their data only. -/
theorem request?_eq (client : Client) (call : Call) :
    client.request? call = do
      return ⟨methodOf call, ← client.url? (Url.subpath (partsOf call)), ← client.authorization?,
        "*/*", userAgent, (dataOf call).map fun _ => "application/json",
        ((dataOf call).map Json.Value.write).getD ""⟩ := by
  cases call with
  | getRun id =>
    rw [partsOf, subpath_run]
    rfl
  | submitScore id request =>
    rw [partsOf, subpath_scores]
    rfl
  | _ => rfl

/-- A request by which a client puts a call to the service at some origin, with the root of the
service in front of the path. -/
structure Puts (client : Client) (origin root : String) (call : Call) (request : Request) :
    Prop where
  made : client.request? call = some request
  method : request.method = methodOf call
  origin : request.url.origin = origin
  path : Url.IsBare client.address →
    request.url.path = root ++ Url.subpath (partsOf call) ∧ request.url.query = none
  authorization : request.authorization = client.token.map ("Bearer " ++ ·)
  body : request.body = ((dataOf call).map Json.Value.write).getD ""

/-- Whether a request is of a kind, for a path below the root of a service, and has a text as its
data. The path is told for an address with neither a query nor a fragment. -/
structure Carries (client : Client) (root : String) (method : Method) (path body : String)
    (request : Request) : Prop where
  method : request.method = method
  path : Url.IsBare client.address → request.url.path = root ++ path
  body : request.body = body

/-- Asking for a run takes its name in the path and no data. -/
theorem Puts.carries_getRun {client : Client} {origin root : String} {id : RunId}
    {request : Request} (puts : client.Puts origin root (.getRun id) request) :
    client.Carries root .get ("/optimizer/runs/" ++ id.write) "" request where
  method := puts.method
  path bare := (puts.path bare).1.trans (congrArg _ (subpath_run id))
  body := puts.body

/-- A score goes to the run in the path, with the trial and the score as members of its data. -/
theorem Puts.carries_submitScore {client : Client} {origin root : String} {id : RunId}
    {trialId : Int64} {score : Float} {request : Request}
    (puts : client.Puts origin root (.submitScore id ⟨trialId, score⟩) request) :
    client.Carries root .post ("/optimizer/runs/" ++ id.write ++ "/submit_score")
      (Json.Value.record [("trial_id", .number (.whole trialId.toInt)),
        ("score", .number (.real score))]).write request where
  method := puts.method
  path bare := (puts.path bare).1.trans (congrArg _ (subpath_scores id))
  body := puts.body

theorem authorization?_eq {client : Client}
    (legal : ∀ token ∈ client.token, isHeaderText token = true) :
    client.authorization? = some (client.token.map ("Bearer " ++ ·)) := by
  rw [authorization?]
  cases given : client.token with
  | none => rfl
  | some token =>
    dsimp only
    rw [if_pos (legal token given), Option.map_some]

/-- Settings that are put together from all sources have the address as a client uses it. -/
theorem address_ofSettings (options : SettingsOptions) (environment : Environment)
    (configHome : Option String) (source : TextSource) :
    let settings := Settings.resolve options environment configHome source
    (ofSettings settings).address = settings.apiUrl :=
  Settings.trimSlashes_trimSlashes _

/-- A client with a usable address and credential can put every call to the service at the
address, below one and the same root. -/
theorem exists_puts {client : Client} {url : Url}
    (parsed : Url.parse? client.address = some url)
    (legal : ∀ token ∈ client.token, isHeaderText token = true) :
    ∃ root, ∀ call, ∃ request, client.Puts url.origin root call request := by
  obtain ⟨root, located⟩ := Url.exists_root parsed
  refine ⟨root, fun call => ?_⟩
  have filled : partsOf call ≠ [] := by cases call <;> nofun
  obtain ⟨other, found, origin, path⟩ := located (partsOf call) (isName_partsOf call) filled
  have address : client.url? (Url.subpath (partsOf call)) = some other := found
  refine ⟨⟨methodOf call, other, client.token.map ("Bearer " ++ ·), "*/*", userAgent,
    (dataOf call).map fun _ => "application/json", ((dataOf call).map Json.Value.write).getD ""⟩,
    { made := ?_, method := rfl, origin, path, authorization := rfl, body := rfl }⟩
  rw [request?_eq, address, authorization?_eq legal]
  rfl

end Client
end Http
end Cupping
