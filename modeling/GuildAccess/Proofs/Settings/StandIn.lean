import GuildAccess.Proofs.Settings.Laws

/-!
The library to run with keeps the laws. Of sources that set nothing but fields of sections it is
plain to see that they are merged key by key.
-/
namespace GuildAccess.Settings

/-! ### Keys of variables -/

section Variables
variable {naming : Naming} {key : Key} {cs rest : List Char} {n : String} {p : Path}

theorem readName_eq_some : readName cs = some (.name n, rest) →
    cs = n.toList ++ rest := by
  unfold readName
  dsimp only
  split
  · intro none
    cases none
  · intro read
    cases read
    rw [String.toList_ofList, List.takeWhile_append_dropWhile]

theorem isPlain_iff : isPlain n = true ↔ n ≠ "" ∧ ∀ c ∈ n.toList, c.isLower = true ∨ c = '_' := by
  simp [isPlain]

/-- A stretch of letters of a class is taken up to where another letter stops it. -/
theorem takeWhile_dropWhile_exact {letter : Char → Bool} (inside : ∀ c ∈ cs, letter c = true)
    (ends : ∀ c ∈ rest.head?, letter c = false) :
    (cs ++ rest).takeWhile letter = cs ∧ (cs ++ rest).dropWhile letter = rest := by
  rw [List.takeWhile_append_of_pos inside, List.dropWhile_append_of_pos inside]
  cases rest with
  | nil => exact ⟨List.append_nil cs, rfl⟩
  | cons c rest =>
    have stop := ends c rfl
    constructor
    · rw [List.takeWhile_cons, stop]
      exact List.append_nil cs
    · rw [List.dropWhile_cons, stop]
      rfl

/-- A plain name is read up to where it ends. -/
theorem readName_plain (plain : isPlain n = true) (ends : ∀ c ∈ rest.head?, isNameChar c = false) :
    readName (n.toList ++ rest) = some (.name n, rest) := by
  obtain ⟨some_char, plain⟩ := isPlain_iff.mp plain
  have inside : ∀ c ∈ n.toList, isNameChar c = true := by
    intro c member
    rcases plain c member with small | rfl
    · change (((c.isUpper || c.isLower) || c.isDigit) || c = '_' || c = '-' || c = ' ') = true
      rw [small, Bool.or_true]
      rfl
    · rfl
  obtain ⟨taken, left⟩ := takeWhile_dropWhile_exact inside ends
  unfold readName
  rw [taken, left]
  simp [some_char]

/-- Steps that were all found are those that there are. -/
theorem mapM_steps {steps : List (Except SettingsError Step)} :
    (steps.mapM fun step => step) = .ok p ↔ steps = p.map .ok := by
  induction steps generalizing p with
  | nil => cases p <;> simp [pure, Except.pure]
  | cons step steps ih =>
    rw [List.mapM_cons]
    simp only [passes_bind, ih]
    constructor
    · rintro ⟨first, rfl, later, rfl, done⟩
      cases done
      rfl
    · intro same
      cases p with
      | nil => cases same
      | cons first later =>
        obtain ⟨rfl, rfl⟩ := List.cons.inj same
        exact ⟨first, rfl, later, rfl, rfl⟩

/-- Where no step is left nothing is left to read. -/
theorem readSteps_nil {fuel : Nat} (read : readSteps fuel cs = some []) : cs = [] := by
  unfold readSteps at read
  split at read
  · rfl
  · cases read
  · simp [Option.bind_eq_some_iff] at read
  · simp [Option.bind_eq_some_iff] at read
  · cases read

/-- A single name behind the first one comes behind a point and ends the text. -/
theorem readSteps_name {fuel : Nat} (read : readSteps fuel cs = some [.ok (.name n)]) :
    cs = '.' :: n.toList := by
  unfold readSteps at read
  split at read
  · cases read
  · cases read
  · simp only [Option.bind_eq_bind, Option.bind_eq_some_iff, Option.some.injEq,
      Prod.exists] at read
    obtain ⟨step, rest, first, later, ended, same⟩ := read
    obtain ⟨here, rfl⟩ := List.cons.inj same
    obtain rfl := Except.ok.inj here
    rw [readName_eq_some first, readSteps_nil ended, List.append_nil]
  · simp only [Option.bind_eq_bind, Option.bind_eq_some_iff, Option.some.injEq,
      Prod.exists] at read
    obtain ⟨m, rest, -, later, -, same⟩ := read
    have here := (List.cons.inj same).1
    unfold place at here
    split at here
    · cases here
    · split at here <;> cases here
  · cases read

/-- A text is read as the path of a plain key exactly if it is the key in dotted form. -/
theorem readPath_iff (plain : key.IsPlain) :
    readPath cs = some (.ok key.path) ↔ cs = key.dotted := by
  unfold readPath Key.path Key.dotted
  constructor
  · intro read
    simp only [Option.bind_eq_bind, Option.bind_eq_some_iff, Option.some.injEq, mapM_steps,
      Prod.exists] at read
    obtain ⟨first, rest, front, later, behind, same⟩ := read
    obtain ⟨here, rfl⟩ := List.cons.inj same
    obtain rfl := Except.ok.inj here
    rw [readName_eq_some front, readSteps_name behind]
  · rintro rfl
    have behind : readName key.field.toList = some (.name key.field, []) := by
      have read : readName (key.field.toList ++ []) = some (.name key.field, []) :=
        readName_plain plain.field (by simp)
      rwa [List.append_nil] at read
    have ends : ∀ c ∈ ('.' :: key.field.toList).head?, isNameChar c = false := by
      rintro c ⟨⟩
      decide
    rw [readName_plain plain.group ends]
    simp only [Option.bind_eq_bind, Option.bind_some, List.length_cons, readSteps, behind]
    cases key.field.toList.length <;> rfl

end Variables

/-! ### What layers set -/

namespace Layer
variable {l lower upper : Layer} {a : Assignment} {p : Path} {key other : Key}

theorem value?_append (l m : Layer) (p : Path) :
    value? (l ++ m) p = (value? l p).or (value? m p) := by
  unfold value?
  rw [List.find?_append, Option.map_or]

theorem value?_singleton (a : Assignment) (p : Path) :
    value? [a] p = if a.1 = p then some a.2 else none := by
  by_cases here : a.1 = p <;> simp [value?, here]

theorem value?_cons (a : Assignment) (l : Layer) (p : Path) :
    value? (a :: l) p = if a.1 = p then some a.2 else value? l p := by
  rw [← List.singleton_append, value?_append, value?_singleton]
  split <;> rfl

theorem value?_filter {keep : Assignment → Bool} (kept : ∀ b ∈ l, b.1 = p → keep b = true) :
    value? (l.filter keep) p = l.value? p := by
  induction l with
  | nil => rfl
  | cons b l ih =>
    obtain ⟨first, kept⟩ := List.forall_mem_cons.mp kept
    rw [List.filter_cons, value?_cons]
    split
    · rw [value?_cons, ih kept]
    · next dropped => rw [ih kept, if_neg fun here => dropped (first here)]

theorem value?_filter_none {keep : Assignment → Bool} (gone : ∀ b ∈ l, b.1 = p → keep b = false) :
    value? (l.filter keep) p = none := by
  unfold value?
  rw [Option.map_eq_none_iff, List.find?_eq_none]
  intro b member here
  obtain ⟨listed, kept⟩ := List.mem_filter.mp member
  rw [gone b listed (of_decide_eq_true here)] at kept
  cases kept

def set? (l : Layer) (p : Path) : Option Scalar := value? l.reverse p

theorem set?_append (l m : Layer) (p : Path) : set? (l ++ m) p = (set? m p).or (set? l p) := by
  unfold set?
  rw [List.reverse_append, value?_append]

theorem set?_cons (a : Assignment) (l : Layer) (p : Path) :
    set? (a :: l) p = (set? l p).or (if a.1 = p then some a.2 else none) := by
  rw [← List.singleton_append, set?_append, ← value?_singleton]
  rfl

/-- A layer that assigns to nothing but fields of sections. -/
def IsFlat (l : Layer) : Prop := ∀ a ∈ l, ∃ key : Key, a.1 = key.path

theorem meets_path : Path.meets key.path other.path = true ↔ key = other := by
  cases key
  cases other
  simp [Key.path, Path.meets]

theorem reaches_path : Path.reaches key.path other.path = true ↔ key = other := by
  cases key
  cases other
  simp [Key.path, Path.reaches]

theorem path_inj : key.path = other.path ↔ key = other := by
  cases key
  cases other
  simp [Key.path]

/-- Laying an assignment to a field over a flat layer takes away what was assigned to that field and
nothing else. -/
theorem IsFlat.meets_iff (flat : l.IsFlat) (named : ∃ key : Key, a.1 = key.path) {b : Assignment}
    (member : b ∈ l) : Path.meets b.1 a.1 = true ↔ b.1 = a.1 := by
  obtain ⟨key, path⟩ := named
  obtain ⟨other, path'⟩ := flat b member
  rw [path, path', meets_path, path_inj]

theorem IsFlat.assign (flat : l.IsFlat) (named : ∃ key : Key, a.1 = key.path) :
    (l.assign a).IsFlat := by
  intro b member
  rcases List.mem_append.mp member with old | new
  · exact flat b (List.mem_filter.mp old).1
  · exact List.mem_singleton.mp new ▸ named

theorem IsFlat.value?_assign (flat : l.IsFlat) (named : ∃ key : Key, a.1 = key.path) (p : Path) :
    (l.assign a).value? p = if a.1 = p then some a.2 else l.value? p := by
  unfold Layer.assign
  rw [value?_append, value?_singleton]
  split
  · next here =>
    rw [value?_filter_none fun b member there => ?_, Option.none_or]
    simpa using (flat.meets_iff named member).mpr (there.trans here.symm)
  · next elsewhere =>
    rw [value?_filter fun b member there => ?_, Option.or_none]
    have apart := mt (flat.meets_iff named member).mp fun same => elsewhere (same.symm.trans there)
    simpa using apart

theorem IsFlat.set?_assign (flat : l.IsFlat) (named : ∃ key : Key, a.1 = key.path) (p : Path) :
    (l.assign a).set? p = if a.1 = p then some a.2 else l.set? p := by
  unfold Layer.assign
  rw [set?_append]
  have last : set? [a] p = if a.1 = p then some a.2 else none := value?_singleton a p
  rw [last]
  split
  · rfl
  · next elsewhere =>
    unfold set?
    rw [Option.none_or, ← List.filter_reverse, value?_filter fun b member there => ?_]
    have member := List.mem_reverse.mp member
    have apart := mt (flat.meets_iff named member).mp fun same => elsewhere (same.symm.trans there)
    simpa using apart

/-- Of a field in flat layers the upper one has the say, the last one for the field if there are
several. -/
theorem IsFlat.overlay (flat : lower.IsFlat) (flat' : upper.IsFlat) :
    (lower.overlay upper).IsFlat ∧ ∀ p,
      (lower.overlay upper).value? p = (upper.set? p).or (lower.value? p) ∧
      (lower.overlay upper).set? p = (upper.set? p).or (lower.set? p) := by
  unfold Layer.overlay
  induction upper generalizing lower with
  | nil => exact ⟨flat, fun p => ⟨rfl, rfl⟩⟩
  | cons a upper ih =>
    have named := flat' a List.mem_cons_self
    obtain ⟨all, above⟩ := ih (flat.assign named) fun b member =>
      flat' b (List.mem_cons_of_mem a member)
    refine ⟨all, fun p => ?_⟩
    rw [List.foldl_cons, (above p).1, (above p).2, flat.value?_assign named, flat.set?_assign named,
      set?_cons, Option.or_assoc, Option.or_assoc]
    split <;> simp

/-- In a flat layer there is nothing at a field but a single value. -/
theorem IsFlat.found? (flat : l.IsFlat) (key : Key) :
    l.found? key.path = (l.value? key.path).map .single := by
  unfold Layer.found?
  cases value : l.value? key.path with
  | some v => rfl
  | none =>
    have nothing : l.reaches key.path = false := by
      unfold reaches
      rw [List.any_eq_false]
      intro a listed through
      obtain ⟨other, path⟩ := flat a listed
      rw [path, reaches_path] at through
      unfold value? at value
      rw [Option.map_eq_none_iff, List.find?_eq_none] at value
      exact value a listed (by simp [path, through])
    simp [nothing]

/-- Nor is there a list in place of a section. -/
theorem IsFlat.entries (flat : l.IsFlat) {group : String} {fields : List String}
    {read : String → Option Found} (done : l.entries group fields = .ok read) (field : String) :
    read field = (l.value? (Key.path ⟨group, field⟩)).map .single := by
  have no_list : l.isList [.name group] = false := by
    unfold isList steps
    rw [List.any_eq_false]
    intro step member
    obtain ⟨a, listed, behind⟩ := List.mem_filterMap.mp (List.mem_eraseDups.mp member)
    obtain ⟨key, path⟩ := flat a listed
    rw [path] at behind
    split at behind
    · obtain rfl := Option.some.inj behind
      simp
    · cases behind
  unfold Layer.entries at done
  rw [no_list] at done
  split at done
  · cases done
  · cases done
    exact flat.found? ⟨group, field⟩

end Layer

/-! ### The library -/

namespace Library.standIn
variable {naming : Naming} {environment : List (String × String)} {l : Layer} {key : Key}

def sets? (l : Layer) (key : Key) : Option Found := (l.set? key.path).map .single

def parsed (s : String) : Found := .single (.ofVariable s)

theorem ofVariables_cons (v : String × String) (environment : List (String × String)) :
    Layer.ofVariables naming (v :: environment) =
      (match variablePath? naming v.1 with
      | none => Layer.ofVariables naming environment
      | some path => path >>= fun p => Layer.ofVariables naming environment >>= fun l =>
        .ok ((p, if naming.parsing then .ofVariable v.2 else .text v.2) :: l)) := by
  unfold Layer.ofVariables
  dsimp only
  rw [List.filterMap_cons]
  cases variablePath? naming v.1 with
  | none => rfl
  | some path =>
    cases path with
    | error e => rfl
    | ok p => exact List.mapM_cons

/-- A variable is for the place of a plain key if it is named for the key. -/
theorem variablePath?_iff (plain : key.IsPlain) {name : String} :
    variablePath? naming name = some (.ok key.path) ↔ naming.dotted? name = some key.dotted := by
  unfold variablePath?
  rw [Option.bind_eq_bind, Option.bind_eq_some_iff]
  simp [readPath_iff plain]

/-- The layer of the variables sets a plain key to what the last variable of its name spells. -/
theorem set?_ofVariables (parsing : naming.parsing = true) (plain : key.IsPlain)
    (done : Layer.ofVariables naming environment = .ok l) : l.set? key.path =
      (environment.reverse.find? fun v => naming.dotted? v.1 = some key.dotted).map fun v =>
        .ofVariable v.2 := by
  induction environment generalizing l with
  | nil =>
    cases done
    rfl
  | cons v environment ih =>
    rw [ofVariables_cons] at done
    rw [List.reverse_cons, List.find?_append, Option.map_or]
    have spelled : variablePath? naming v.1 = some (.ok key.path) ↔
        naming.dotted? v.1 = some key.dotted := variablePath?_iff plain
    cases path : variablePath? naming v.1 with
    | none =>
      rw [path] at done spelled
      have other : ¬ naming.dotted? v.1 = some key.dotted := fun named => by
        cases spelled.mpr named
      rw [ih done]
      simp [other]
    | some q =>
      rw [path] at done spelled
      obtain ⟨q, rfl, rest⟩ := passes_bind.mp done
      obtain ⟨m, others, rest⟩ := passes_bind.mp rest
      cases rest
      rw [Layer.set?_cons, ih others, parsing]
      by_cases here : q = key.path
      · have named := spelled.mp (by rw [here])
        simp [here, named]
      · have other : ¬ naming.dotted? v.1 = some key.dotted := fun named =>
          here (Except.ok.inj (Option.some.inj (spelled.mpr named)))
        simp [here, other]

theorem ofVariables_none (unnamed : ∀ v ∈ environment, naming.dotted? v.1 = none) :
    Layer.ofVariables naming environment = .ok [] := by
  induction environment with
  | nil => rfl
  | cons v environment ih =>
    have no_path : variablePath? naming v.1 = none := by
      rw [variablePath?, unnamed v List.mem_cons_self]
      rfl
    rw [ofVariables_cons, no_path]
    exact ih fun w member => unnamed w (List.mem_cons_of_mem v member)

theorem choose_get {names : List String} (distinct : names.Nodup)
    (small : ∀ name ∈ names, lower name = name) (i : Fin names.length) :
    Found.choose names (.single (.text (names.get i))) = .ok i := by
  have found : names.findFinIdx? (fun name => name = names.get i) = some i := by
    rw [List.findFinIdx?_eq_some_iff]
    refine ⟨decide_eq_true rfl, fun j before => ?_⟩
    have apart : names[j] ≠ names[i] :=
      List.pairwise_iff_getElem.mp distinct j i j.isLt i.isLt before
    simpa using apart
  unfold Found.choose Found.name?
  rw [Option.bind_some, small _ (List.get_mem names i), found]

/-- The library to run with keeps the laws. -/
theorem lawful : standIn.Lawful sets? parsed where
  file_there _ _ := rfl
  file_missing := ⟨[], rfl, fun _ => rfl⟩
  none_named naming environment unnamed := by
    refine ⟨[], ofVariables_none unnamed, fun defaults sources overrides => ?_⟩
    have same (sources : List Layer) : (sources ++ [[]]).foldl Layer.overlay [] =
        sources.foldl Layer.overlay [] := by
      rw [List.foldl_append]
      rfl
    exact congrArg (fun middle => Except.ok (((Layer.overlay [] (.ofPlain defaults)).overlay
      middle).overlay (.ofPlain overrides))) (same sources)
  named naming environment l done parsing key plain := by
    have said := set?_ofVariables parsing plain done
    unfold sets?
    rw [said, Option.map_map]
    rfl
  text_plain _ := rfl
  whole_plain bound n below := by
    simp [Plain.toScalar, Found.read, Scalar.toWord?, Option.filter, below]
  truth_plain _ := rfl
  choice_plain _ distinct small i := choose_get distinct small i

end Library.standIn
end GuildAccess.Settings
