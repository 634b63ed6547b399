/-!
Finite maps kept as a list of rows in strictly ascending key order, so that two maps with the same
rows are equal and listing the rows needs no sorting.
-/
namespace GuildAccess

/-- Keys with a strict total order. -/
class Key (κ : Type) where
  decEq : DecidableEq κ
  before : κ → κ → Bool
  irrefl : ∀ a, before a a = false
  trans : ∀ {a b c}, before a b = true → before b c = true → before a c = true
  connex : ∀ {a b}, before a b = false → before b a = false → a = b

instance (priority := low) {κ : Type} [Key κ] : DecidableEq κ := Key.decEq

/-- A finite map from `κ` to `ν`. -/
structure KeyMap (κ ν : Type) [Key κ] where
  entries : List (κ × ν)
  ascending : entries.Pairwise fun a b => Key.before a.1 b.1 = true

namespace KeyMap
variable {κ ν : Type} [Key κ]

/-- Puts a row at its place, over a row of the same key. -/
def place (k : κ) (v : ν) : List (κ × ν) → List (κ × ν)
  | [] => [(k, v)]
  | (k', v') :: rest =>
    if Key.before k k' then (k, v) :: (k', v') :: rest
    else if k = k' then (k, v) :: rest
    else (k', v') :: place k v rest

theorem mem_place {k : κ} {v : ν} {e : κ × ν} {rows : List (κ × ν)} (member : e ∈ place k v rows) :
    e = (k, v) ∨ e ∈ rows := by
  induction rows with
  | nil => simpa [place] using member
  | cons row rest ih =>
    obtain ⟨k', v'⟩ := row
    unfold place at member
    split at member
    · simpa using member
    · split at member
      · rcases List.mem_cons.mp member with first | later
        · exact .inl first
        · exact .inr (List.mem_cons_of_mem _ later)
      · rcases List.mem_cons.mp member with first | later
        · exact .inr (first ▸ List.mem_cons_self)
        · exact (ih later).imp_right (List.mem_cons_of_mem _)

theorem place_ascending {k : κ} {v : ν} {rows : List (κ × ν)}
    (ascending : rows.Pairwise fun a b => Key.before a.1 b.1 = true) :
    (place k v rows).Pairwise fun a b => Key.before a.1 b.1 = true := by
  induction rows with
  | nil => simp [place]
  | cons row rest ih =>
    obtain ⟨k', v'⟩ := row
    have above : ∀ e ∈ rest, Key.before k' e.1 = true :=
      fun e member => List.rel_of_pairwise_cons ascending member
    have tail := List.Pairwise.of_cons ascending
    unfold place
    split
    · rename_i first
      refine List.Pairwise.cons (fun e member => ?_) ascending
      rcases List.mem_cons.mp member with same | later
      · subst same; exact first
      · exact Key.trans first (above e later)
    · rename_i notFirst
      split
      · rename_i same
        subst same
        exact List.Pairwise.cons (fun e member => above e member) tail
      · rename_i different
        refine List.Pairwise.cons (fun e member => ?_) (ih tail)
        rcases mem_place member with same | later
        · subst same
          cases order : Key.before k' k with
          | true => rfl
          | false => exact absurd (Key.connex (by simpa using notFirst) order) different
        · exact above e later

def empty : KeyMap κ ν := ⟨[], .nil⟩

def get? (m : KeyMap κ ν) (k : κ) : Option ν := (m.entries.find? fun e => e.1 = k).map (·.2)

def contains (m : KeyMap κ ν) (k : κ) : Bool := (m.get? k).isSome

def insert (m : KeyMap κ ν) (k : κ) (v : ν) : KeyMap κ ν :=
  ⟨place k v m.entries, place_ascending m.ascending⟩

def filter (m : KeyMap κ ν) (keep : κ → ν → Bool) : KeyMap κ ν :=
  ⟨m.entries.filter fun e => keep e.1 e.2, m.ascending.filter _⟩

def erase (m : KeyMap κ ν) (k : κ) : KeyMap κ ν := m.filter fun k' _ => k' ≠ k

def mapRows (m : KeyMap κ ν) (f : ν → ν) : KeyMap κ ν :=
  ⟨m.entries.map fun e => (e.1, f e.2), List.pairwise_map.mpr m.ascending⟩

def keys (m : KeyMap κ ν) : List κ := m.entries.map (·.1)

def rows (m : KeyMap κ ν) : List ν := m.entries.map (·.2)

def size (m : KeyMap κ ν) : Nat := m.entries.length

theorem find?_place (k q : κ) (v : ν) (rows : List (κ × ν)) :
    (place k v rows).find? (fun e => e.1 = q) =
      if q = k then some (k, v) else rows.find? (fun e => e.1 = q) := by
  induction rows with
  | nil => by_cases here : k = q <;> simp [place, here, eq_comm]
  | cons row rest ih =>
    obtain ⟨k', v'⟩ := row
    unfold place
    split
    · by_cases here : k = q
      · simp [here]
      · simp [List.find?_cons, here, Ne.symm here]
    · split
      · rename_i same
        subst same
        by_cases here : k = q
        · simp [here]
        · simp [here, Ne.symm here]
      · rename_i different
        by_cases here : k' = q
        · have elsewhere : ¬ q = k := fun same => different (same.symm.trans here.symm)
          simp [here, elsewhere]
        · simp [here, ih]

@[simp] theorem get?_empty (q : κ) : (empty : KeyMap κ ν).get? q = none := rfl

@[simp] theorem contains_empty (q : κ) : (empty : KeyMap κ ν).contains q = false := rfl

/-- Only the row of the key changes. -/
theorem get?_insert (m : KeyMap κ ν) (k q : κ) (v : ν) :
    (m.insert k v).get? q = if q = k then some v else m.get? q := by
  unfold get? insert
  rw [find?_place]
  split <;> rfl

/-- Rewriting rows in place is seen row by row. -/
@[simp] theorem get?_mapRows (m : KeyMap κ ν) (f : ν → ν) (q : κ) :
    (m.mapRows f).get? q = (m.get? q).map f := by
  simp [get?, mapRows, List.find?_map, Function.comp_def]

theorem find?_filter_ascending {rows : List (κ × ν)} (keep : κ → ν → Bool) (q : κ)
    (ascending : rows.Pairwise fun a b => Key.before a.1 b.1 = true) :
    (rows.filter fun e => keep e.1 e.2).find? (fun e => e.1 = q) =
      (rows.find? (fun e => e.1 = q)).filter fun e => keep e.1 e.2 := by
  induction rows with
  | nil => rfl
  | cons row rest ih =>
    obtain ⟨k, v⟩ := row
    have tail := ih (List.Pairwise.of_cons ascending)
    by_cases here : k = q
    · subst here
      have gone : rest.find? (fun e => e.1 = k) = none := by
        rw [List.find?_eq_none]
        intro e member
        have above : Key.before k e.1 = true := List.rel_of_pairwise_cons ascending member
        simp only [decide_eq_true_eq]
        intro same
        rw [same, Key.irrefl] at above
        exact Bool.noConfusion above
      by_cases kept : keep k v = true
      · simp [kept, Option.filter]
      · simp [kept, tail, gone, Option.filter]
    · by_cases kept : keep k v = true
      · simp [kept, here, tail]
      · simp [kept, here, tail]

/-- A kept row is unchanged, and a dropped one is gone. -/
@[simp] theorem get?_filter (m : KeyMap κ ν) (keep : κ → ν → Bool) (q : κ) :
    (m.filter keep).get? q = (m.get? q).filter (keep q) := by
  unfold get? filter
  rw [find?_filter_ascending keep q m.ascending]
  cases found : m.entries.find? (fun e => e.1 = q) with
  | none => rfl
  | some e =>
    have same : e.1 = q := by simpa using List.find?_some found
    subst same
    by_cases kept : keep e.1 e.2 = true <;> simp [Option.filter, kept]

/-- A test of the key keeps its row or drops it. -/
theorem get?_filter_keys (m : KeyMap κ ν) (keep : κ → Bool) (q : κ) :
    (m.filter fun k _ => keep k).get? q = if keep q then m.get? q else none := by
  rw [get?_filter]
  cases found : m.get? q <;> cases keep q <;> rfl

/-- Only the row of the key is dropped. -/
theorem get?_erase (m : KeyMap κ ν) (k q : κ) :
    (m.erase k).get? q = if q = k then none else m.get? q := by
  unfold erase
  rw [get?_filter_keys]
  by_cases here : q = k <;> simp [here]

theorem contains_insert (m : KeyMap κ ν) (k q : κ) (v : ν) :
    (m.insert k v).contains q = (decide (q = k) || m.contains q) := by
  unfold contains
  rw [get?_insert]
  split
  · next here => simp [here]
  · next different => simp [different]

theorem contains_erase (m : KeyMap κ ν) (k q : κ) :
    (m.erase k).contains q = (decide (q ≠ k) && m.contains q) := by
  unfold contains
  rw [get?_erase]
  split
  · next here => simp [here]
  · next different => simp [different]

@[simp] theorem contains_mapRows (m : KeyMap κ ν) (f : ν → ν) (q : κ) :
    (m.mapRows f).contains q = m.contains q := by
  simp [contains]

/-- A row that is found is listed. -/
theorem mem_of_get? {m : KeyMap κ ν} {q : κ} {v : ν} (found : m.get? q = some v) :
    (q, v) ∈ m.entries := by
  unfold get? at found
  obtain ⟨⟨k, w⟩, listed, same⟩ := Option.map_eq_some_iff.mp found
  have here : k = q := by simpa using List.find?_some listed
  cases same
  cases here
  exact List.mem_of_find?_eq_some listed

/-- No key is listed twice. -/
theorem keys_nodup (m : KeyMap κ ν) : (m.entries.map (·.1)).Nodup := by
  refine List.pairwise_map.mpr (m.ascending.imp fun below same => ?_)
  rw [same, Key.irrefl] at below
  cases below

/-- A row that is listed is found: no key is listed twice. -/
theorem get?_of_mem {m : KeyMap κ ν} {q : κ} {v : ν} (listed : (q, v) ∈ m.entries) :
    m.get? q = some v := by
  obtain ⟨rows, ascending⟩ := m
  unfold get?
  induction rows with
  | nil => cases listed
  | cons row rest ih =>
    rcases List.mem_cons.mp listed with rfl | later
    · simp
    · have above : Key.before row.1 q = true := List.rel_of_pairwise_cons ascending later
      have different : row.1 ≠ q := by
        intro same
        rw [same, Key.irrefl] at above
        cases above
      rw [List.find?_cons_of_neg (by simpa using different)]
      exact ih ascending.of_cons later

/-- The rows are those of the keys. -/
theorem mem_rows {m : KeyMap κ ν} {v : ν} : v ∈ m.rows ↔ ∃ q, m.get? q = some v := by
  unfold rows
  rw [List.mem_map]
  constructor
  · rintro ⟨⟨q, w⟩, listed, rfl⟩
    exact ⟨q, get?_of_mem listed⟩
  · rintro ⟨q, found⟩
    exact ⟨(q, v), mem_of_get? found, rfl⟩

section Named
variable {m : KeyMap κ ν} {key : ν → κ}
  (named : ∀ q v, m.get? q = some v → key v = q)
include named

/-- Where rows carry their keys, the rows are those found under the keys they carry. -/
theorem mem_rows_of_named {v : ν} : v ∈ m.rows ↔ m.get? (key v) = some v := by
  rw [mem_rows]
  refine ⟨?_, fun found => ⟨key v, found⟩⟩
  rintro ⟨q, found⟩
  rw [named q v found]
  exact found

/-- Where rows carry their keys, they are listed by ascending key. -/
theorem rows_ascending : m.rows.Pairwise fun a b => Key.before (key a) (key b) = true := by
  refine List.pairwise_map.mpr (m.ascending.imp_of_mem fun {a b} listed listed' below => ?_)
  rw [named a.1 a.2 (get?_of_mem listed), named b.1 b.2 (get?_of_mem listed')]
  exact below

/-- Where rows carry their keys, no two rows carry the same key. -/
theorem rows_distinct : (m.rows.map key).Nodup := by
  refine List.pairwise_map.mpr ((rows_ascending named).imp fun below same => ?_)
  rw [same, Key.irrefl] at below
  cases below

end Named

/-- What holds of every row and of a new one holds of every row after the insertion. -/
theorem insert_all {P : κ → ν → Prop} {m : KeyMap κ ν} {k : κ} {v : ν}
    (all : ∀ q w, m.get? q = some w → P q w) (new : P k v) :
    ∀ q w, (m.insert k v).get? q = some w → P q w := by
  intro q w found
  rw [get?_insert] at found
  split at found
  · next here =>
    cases found
    exact here ▸ new
  · exact all q w found

/-- What holds of every row holds of those that are kept. -/
theorem filter_all {P : κ → ν → Prop} {m : KeyMap κ ν} {keep : κ → ν → Bool}
    (all : ∀ q w, m.get? q = some w → P q w) :
    ∀ q w, (m.filter keep).get? q = some w → P q w := by
  intro q w found
  rw [get?_filter] at found
  exact all q w (Option.filter_eq_some_iff.mp found).1

/-- What rewriting keeps true of each row holds of every row afterwards. -/
theorem mapRows_all {P : κ → ν → Prop} {m : KeyMap κ ν} {f : ν → ν}
    (all : ∀ q w, m.get? q = some w → P q (f w)) :
    ∀ q w, (m.mapRows f).get? q = some w → P q w := by
  intro q w found
  rw [get?_mapRows] at found
  obtain ⟨old, stored, rfl⟩ := Option.map_eq_some_iff.mp found
  exact all q old stored

end KeyMap
end GuildAccess
