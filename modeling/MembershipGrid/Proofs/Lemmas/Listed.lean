import MembershipGrid.CommandLine.Command
import Mathlib.Data.List.Basic

/-!
# Files that are listed

Three files may be listed by themselves or after the name of a comparison. Before them there may be the path
of a settings file, which is refused if it is empty and otherwise leaves the rest of the reading of arguments
as it was at the start (`Ready`); from there, both ways to list the files come to the same command.
-/

namespace MembershipGrid.CommandLine

/-- The arguments that can stand for a command. -/
def names : List String := ["compare", "render", "embed", "help"]

/-- An argument that is neither empty nor an option nor the name of a command. -/
structure Plain (argument : String) : Prop where
  nonempty : argument ≠ ""
  hyphen : argument.toList.head? ≠ some '-'
  unnamed : argument ∉ names

/-- Arguments that give the path of a settings file, or none. A path that would be read as an option has to be
attached to the name of the parameter. -/
inductive GivesConfig : List String → Option String → Prop
  | none : GivesConfig [] none
  | apart {path : String} (hyphen : path.toList.head? = some '-' → path = "-") :
      GivesConfig ["--config", path] (some path)
  | attached (path : String) : GivesConfig ["--config=" ++ path] (some path)

/-- What comes of the files of a comparison after a path of a settings file. -/
def listedOutcome (path : Option String) (left right output : String) : Except Stop Invocation :=
  if path = some "" then .error (.refusal (.missingValue .config))
  else .ok ⟨path, .compare left right output none⟩

variable {left right output : String} {config : List String} {path : Option String}

namespace Reading

/-- A reading in which files or the name of a command can come next. -/
structure Unlisted (r : Reading) : Prop where
  level : r.level = .program
  mode : r.mode = .free
  literal : r.literal = false
  places : r.places = [.files]
  files : r.values .files = []

/-- Before the files, the path of a settings file is known, and is settled or still open. -/
structure Ready (path : Option String) (r : Reading) : Prop extends Unlisted r where
  closed : r.pending = none → path ≠ some "" ∧ r.value? .config = path
  pending : ∀ entry ∈ r.pending, r.values .config = [] ∧ ∃ p, path = some p ∧ entry = (.config, [p])

variable {r s : Reading} {argument : String}

/-! ## Single arguments -/

theorem take_of_no_option (literal : r.literal = false) (bare : ∀ rest, argument.toList = '-' :: rest → rest = []) :
    r.take argument = if r.mode = .value then .ok (r.takeValue argument) else r.takePlace argument := by
  rw [take, literal, if_neg Bool.false_ne_true]
  split
  · rename_i listed
    cases bare _ listed
  · rename_i listed
    cases bare _ listed
  · rename_i listed
    cases bare _ listed
  · rfl

theorem take_of_plain (h : Plain argument) (literal : r.literal = false) (mode : r.mode ≠ .value) :
    r.take argument = r.takePlace argument := by
  have hyphen := h.hyphen
  rw [take_of_no_option literal, if_neg mode]
  intro rest listed
  simp [listed] at hyphen

theorem takeAll_of_unnamed (unnamed : argument ∉ names) (rest : List String) :
    r.takeAll (argument :: rest) = r.take argument >>= fun s => s.takeAll rest := by
  simp only [names, List.mem_cons, List.not_mem_nil, or_false, not_or] at unnamed
  have verb : Verb.ofName? argument = none := by simp [Verb.ofName?, unnamed]
  rw [takeAll, verb, if_neg unnamed.2.2.2, ite_self]

theorem takeAll_of_take (unnamed : argument ∉ names) (h : r.take argument = .ok s) (rest : List String) :
    r.takeAll (argument :: rest) = s.takeAll rest := by
  rw [takeAll_of_unnamed unnamed, h]
  rfl

theorem accept_config (unset : r.values .config = []) (path : String) :
    r.accept .config [path] =
      if path = "" then .error (.refusal (.missingValue .config))
      else .ok { r with given := r.given ++ [(.config, [path])] } := by
  rw [accept, if_neg (List.cons_ne_nil _ _), if_neg fun repeated => repeated.2 unset]
  by_cases empty : path = ""
  · subst empty
    rfl
  · rw [if_neg empty, if_neg fun bad => empty (List.mem_singleton.mp bad.2).symm]

theorem Unlisted.with_config (h : r.Unlisted) (closed : r.pending = none) (unset : r.values .config = [])
    {path : String} (nonempty : path ≠ "") :
    Ready (some path) { r with given := r.given ++ [(.config, [path])] } := by
  have values (p : Parameter) : Reading.values { r with given := r.given ++ [(.config, [path])] } p =
      r.values p ++ if .config = p then [path] else [] := by
    simp [Reading.values]
  refine ⟨⟨h.level, h.mode, h.literal, h.places, ?_⟩, fun _ => ⟨?_, ?_⟩, fun entry pending => ?_⟩
  · rw [values, h.files]
    rfl
  · exact fun empty => nonempty (Option.some.inj empty)
  · rw [value?, values, unset]
    rfl
  · cases closed.symm.trans pending

theorem Ready.settle_cases (h : r.Ready path) :
    path = some "" ∧ r.settle = .error (.refusal (.missingValue .config)) ∨
      path ≠ some "" ∧ ∃ s, r.settle = .ok s ∧ s.Ready path ∧ s.pending = none := by
  rw [settle]
  split
  · rename_i closed
    exact .inr ⟨(h.closed closed).1, r, rfl, h, closed⟩
  · rename_i p values some
    obtain ⟨unset, path, rfl, ⟨⟩⟩ := h.pending _ some
    have closed : Unlisted { r with pending := none } := ⟨h.level, h.mode, h.literal, h.places, h.files⟩
    rw [accept_config (r := { r with pending := none }) unset]
    split_ifs with empty
    · exact .inl ⟨congrArg _ empty, rfl⟩
    · exact .inr ⟨fun same => empty (Option.some.inj same), _, rfl, closed.with_config rfl unset empty, rfl⟩

/-! ## Files -/

def listing (r : Reading) (files : List String) : Reading :=
  { r with pending := some (.files, files), mode := .files }

def listed (r : Reading) (files : List String) : Reading :=
  { r with pending := none, mode := .files, given := r.given ++ [(.files, files)] }

theorem values_listed (none : r.values .files = []) (files : List String) :
    (r.listed files).values .files = files := by
  rw [values] at none
  rw [values, listed, List.flatMap_append, none]
  simp

theorem value?_listed {p : Parameter} (other : p ≠ .files) (files : List String) (r : Reading) :
    (r.listed files).value? p = r.value? p := by
  rw [value?, value?, values, values, listed, List.flatMap_append]
  simp [Ne.symm other]

theorem Ready.take_first (h : r.Ready path) (plain : Plain argument) :
    r.take argument = r.settle >>= fun s => .ok (s.listing [argument]) := by
  have closed : r.pending.any (·.1 = .files) = false := by
    have pending := h.pending
    generalize r.pending = open' at pending
    cases open' with
    | none => rfl
    | some entry =>
        obtain ⟨-, path, -, rfl⟩ := pending entry rfl
        rfl
  rw [take_of_plain plain h.literal (by simp [h.mode]), takePlace, h.places]
  simp only [closed, Bool.false_eq_true, if_false]
  rfl

theorem Unlisted.take_listing (h : r.Unlisted) (plain : Plain argument) (files : List String) :
    (r.listing files).take argument = .ok (r.listing (files ++ [argument])) := by
  have literal : (r.listing files).literal = false := h.literal
  have places : (r.listing files).places = [.files] := h.places
  rw [take_of_plain plain literal (by simp [listing]), takePlace, places]
  rfl

theorem settle_listing {files : List String} (some : files ≠ []) (nonempty : "" ∉ files) (r : Reading) :
    (r.listing files).settle = .ok (r.listed files) := by
  simp [settle, listing, accept, some, nonempty, Parameter.repeats]
  rfl

theorem Unlisted.takeAll_listing (h : r.Unlisted) {files more : List String} (some : files ≠ [])
    (plain : ∀ f ∈ files ++ more, Plain f) :
    (r.listing files).takeAll more = .ok (r.listed (files ++ more), none) := by
  induction more generalizing files with
  | nil =>
      rw [List.append_nil] at plain ⊢
      rw [takeAll, settle_listing some fun empty => (plain "" empty).nonempty rfl]
      rfl
  | cons file more ih =>
      have next : files ++ file :: more = files ++ [file] ++ more := by simp
      have here := plain file (by simp)
      rw [takeAll_of_take here.unnamed (h.take_listing here files), next]
      exact ih (by simp) (next ▸ plain)

theorem Ready.takeAll_files (h : r.Ready path) {file : String} {more : List String}
    (plain : ∀ f ∈ file :: more, Plain f) :
    r.takeAll (file :: more) = r.settle >>= fun s => .ok (s.listed (file :: more), none) := by
  have first := plain file List.mem_cons_self
  rw [takeAll_of_unnamed first.unnamed, h.take_first first]
  obtain ⟨-, refused⟩ | ⟨-, s, settled, ready, -⟩ := h.settle_cases
  · rw [refused]
    rfl
  · rw [settled]
    exact ready.toUnlisted.takeAll_listing (List.cons_ne_nil _ _) plain

/-! ## The settings file -/

theorem ready_start : (start .program).Ready none :=
  ⟨⟨rfl, rfl, rfl, rfl, rfl⟩, fun _ => ⟨nofun, rfl⟩, nofun⟩

theorem takeAll_config_apart {path : String} (hyphen : path.toList.head? = some '-' → path = "-") :
    ∃ r : Reading, r.Ready (some path) ∧
      ∀ more, (start .program).takeAll ("--config" :: path :: more) = r.takeAll more := by
  let opened : Reading := { start .program with pending := some (.config, []), mode := .value }
  have bare : ∀ rest, path.toList = '-' :: rest → rest = [] := by
    intro rest listed
    have single := hyphen (by rw [listed, List.head?_cons])
    rw [single] at listed
    exact (List.cons.inj listed).2.symm
  have value : opened.take path = .ok (opened.takeValue path) := take_of_no_option rfl bare
  refine ⟨opened.takeValue path, ⟨⟨rfl, rfl, rfl, rfl, rfl⟩, nofun, ?_⟩, fun more => ?_⟩
  · rintro entry ⟨⟩
    exact ⟨rfl, path, rfl, rfl⟩
  · have taken : (start .program).takeAll ("--config" :: path :: more) =
        opened.take path >>= fun r => r.takeAll more := rfl
    rw [taken, value]
    rfl

theorem takeAll_config_attached (path : String) (more : List String) :
    (start .program).takeAll (("--config=" ++ path) :: more) =
      accept (start .program) .config [path] >>= fun r => r.takeAll more := by
  have listed : ("--config=" ++ path).toList = '-' :: '-' :: ("config=".toList ++ path.toList) := by
    rw [String.toList_append]
    rfl
  have taken : (start .program).take ("--config=" ++ path) = accept (start .program) .config [path] := by
    have option : (start .program).take ("--config=" ++ path) =
        (start .program).takeOption .config (some (String.ofList path.toList)) := by
      rw [take, listed]
      rfl
    rw [option, String.ofList_toList]
    rfl
  have unnamed : "--config=" ++ path ∉ names := by
    intro named
    have first := listed ▸ List.mem_map_of_mem (f := String.toList) named
    simp [names] at first
  rw [takeAll_of_unnamed unnamed, taken]

theorem takeAll_of_givesConfig (h : GivesConfig config path) :
    (∃ r : Reading, r.Ready path ∧ ∀ more, (start .program).takeAll (config ++ more) = r.takeAll more) ∨
      path = some "" ∧ ∀ more,
        (start .program).takeAll (config ++ more) = .error (.refusal (.missingValue .config)) := by
  cases h with
  | none => exact .inl ⟨_, ready_start, fun _ => rfl⟩
  | apart hyphen => exact .inl (takeAll_config_apart hyphen)
  | attached path =>
      simp only [List.singleton_append, takeAll_config_attached, accept_config (r := start .program) rfl]
      split_ifs with empty
      · exact .inr ⟨congrArg _ empty, fun _ => rfl⟩
      · exact .inl ⟨_, ready_start.with_config rfl rfl empty, fun _ => rfl⟩

end Reading

/-! ## The comparison by its name -/

namespace Reading

/-- Some places of a command have their values, and the last of them is still open. -/
def filling (verb : Verb) (given : List (Parameter × List String)) (p : Parameter) (value : String)
    (places : List Parameter) : Reading :=
  { level := .command verb, given, pending := some (p, [value]), places }

variable {verb : Verb} {given : List (Parameter × List String)} {p q : Parameter} {value : String}
  {places : List Parameter} {r : Reading} {argument : String}

theorem take_next (plain : Plain argument) (literal : r.literal = false) (mode : r.mode ≠ .value)
    (next : r.places = q :: places) (single : q.repeats = false) :
    r.take argument = { r with places := places }.openWith q argument .free := by
  rw [take_of_plain plain literal mode, takePlace, next]
  exact if_neg (by simp [single])

theorem settle_filling {more : List Parameter} (distinct : (given.map Prod.fst ++ p :: more).Nodup)
    (nonempty : value ≠ "") :
    (filling verb given p value places).settle =
      .ok { level := .command verb, given := given ++ [(p, [value])], places } := by
  have unset : Reading.values { level := .command verb, given, places } p = [] := by
    rw [Reading.values, List.flatMap_eq_nil_iff]
    intro entry he
    rw [if_neg]
    rintro rfl
    exact (List.nodup_append.mp distinct).2.2 _ (List.mem_map_of_mem he) _ List.mem_cons_self rfl
  simp [settle, filling, accept, unset, Ne.symm nonempty]

/-- From the first value on, the values fill the places of a command in order. -/
theorem takeAll_filling {values : List String} (distinct : (given.map Prod.fst ++ p :: places).Nodup)
    (plain : ∀ v ∈ value :: values, Plain v) (length : values.length = places.length)
    (single : ∀ q ∈ places, q.repeats = false) :
    (filling verb given p value places).takeAll values =
      .ok ({ level := .command verb, given := given ++ (p :: places).zip ((value :: values).map ([·])),
             places := [] }, none) := by
  induction places generalizing given p value values with
  | nil =>
      obtain rfl := List.length_eq_zero_iff.mp length
      rw [takeAll, settle_filling distinct (plain value List.mem_cons_self).nonempty]
      rfl
  | cons q places ih =>
      obtain ⟨v, values, rfl⟩ := List.exists_cons_of_length_eq_add_one length
      obtain ⟨here, others⟩ := List.forall_mem_cons.mp single
      have next := plain v (by simp)
      have taken : (filling verb given p value (q :: places)).take v =
          .ok (filling verb (given ++ [(p, [value])]) q v places) := by
        rw [take_next next rfl (by simp [filling]) rfl here, openWith]
        exact congrArg (· >>= _) (settle_filling distinct (plain value List.mem_cons_self).nonempty)
      rw [takeAll_of_take next.unnamed taken, ih (by simpa using distinct) (List.forall_mem_of_forall_mem_cons plain)
        (Nat.succ.inj length) others, List.append_assoc]
      rfl

end Reading

theorem readCommand_compare (hl : Plain left) (hr : Plain right) (ho : Plain output) :
    readCommand .compare [left, right, output] = .ok ⟨none, .compare left right output none⟩ := by
  have first : (Reading.start (.command .compare)).take left =
      .ok (.filling .compare [] .input1 left [.input2, .output]) := Reading.take_next hl rfl nofun rfl rfl
  rw [readCommand, Reading.takeAll_of_take hl.unnamed first,
    Reading.takeAll_filling (by decide) (by simp [hl, hr, ho]) rfl (by decide)]
  rfl

/-! ## Both ways -/

/-- Once the path of the settings file is known, three files come to the same in either way. -/
theorem Reading.Ready.read_eq {r : Reading} (h : r.Ready path)
    (taken : ∀ more, (Reading.start .program).takeAll (config ++ more) = r.takeAll more) (hl : Plain left)
    (hr : Plain right) (ho : Plain output) {files : List String}
    (way : files = [left, right, output] ∨ files = ["compare", left, right, output]) :
    read (config ++ files) = r.settle >>= fun s => .ok ⟨s.value? .config, .compare left right output none⟩ := by
  rw [read, taken]
  obtain rfl | rfl := way
  · rw [h.takeAll_files (by simp [hl, hr, ho])]
    obtain ⟨-, refused⟩ | ⟨-, s, settled, ready, -⟩ := h.settle_cases
    · rw [refused]
      rfl
    · have three := values_listed ready.files [left, right, output]
      have config := value?_listed (show Parameter.config ≠ .files by decide) [left, right, output] s
      simp only [settled, bind, Except.bind, three, config]
      rfl
  · have verb : r.takesVerb := by simp [takesVerb, h.level, h.mode, h.literal]
    have named : r.takeAll ["compare", left, right, output] = .ok (r, some (.compare, [left, right, output])) := by
      rw [Reading.takeAll, if_pos verb]
      rfl
    rw [named]
    change (readCommand .compare [left, right, output] >>= fun inner => r.settle >>= fun s =>
      pure { inner with config := inner.config <|> s.value? .config }) = _
    rw [readCommand_compare hl hr ho]
    rfl

/-- Three files come to the same with the name of the comparison before them and without: the path of the
settings file before them is refused if it is empty, and otherwise the files are compared. -/
theorem read_listed (given : GivesConfig config path) (hl : Plain left) (hr : Plain right) (ho : Plain output)
    {files : List String} (way : files = [left, right, output] ∨ files = ["compare", left, right, output]) :
    read (config ++ files) = listedOutcome path left right output := by
  obtain ⟨r, ready, taken⟩ | ⟨empty, refused⟩ := Reading.takeAll_of_givesConfig given
  · rw [ready.read_eq taken hl hr ho way, listedOutcome]
    obtain ⟨empty, refused⟩ | ⟨some, s, settled, settles, closed⟩ := ready.settle_cases
    · rw [if_pos empty, refused]
      rfl
    · rw [if_neg some, settled, ← (settles.closed closed).2]
      rfl
  · rw [read, refused, listedOutcome, if_pos empty]
    rfl

end MembershipGrid.CommandLine
