import Mathlib.Data.List.Nodup
import GuildAccess.Snowflake.Mint
import GuildAccess.Proofs.Identifiers

/-!
What a mint makes of any clock. One call uses up the readings that it looks at and moves the mint
on, to a later millisecond or to the next sequence number, also where the clock repeats itself or
steps back; so identifiers come in strictly ascending order and tell what they were made of. A call
comes to its end unless the sequence numbers are spent and no later reading comes.
-/
namespace GuildAccess
namespace Mint
variable {m after last : Mint} {readings taken rest : List Int} {made : List Mint} {n : Nat}

def newest (m : Mint) : Snowflake := .ofParts m.last m.worker m.sequence

/-- One call: it takes a later millisecond at once, else the next sequence number of the millisecond
used last, or the first later millisecond when these are spent. -/
inductive Step (m : Mint) : List Int → Mint → Prop
  | later {reading : Int} (new : m.last < reading) :
    Step m [reading] { m with last := reading, sequence := 0 }
  | numbered {reading : Int} (old : reading ≤ m.last) (left : m.sequence + 1 < 4096) :
    Step m [reading] { m with sequence := m.sequence + 1 }
  | waited {reading new : Int} {between : List Int} (old : reading ≤ m.last)
    (spent : m.sequence + 1 = 4096) (blocked : ∀ r ∈ between, r ≤ m.last) (freed : m.last < new) :
    Step m (reading :: (between ++ [new])) { m with last := new, sequence := 0 }

/-- Calls in turn, with the readings they use up, the mint after each call, and the mint at the end
of them. -/
inductive Run : Mint → List Int → List Mint → Mint → Prop
  | stop (m : Mint) : Run m [] [] m
  | call {m after last : Mint} {taken rest : List Int} {made : List Mint}
    (makes : m.Step taken after) (on : Run after rest made last) :
    Run m (taken ++ rest) (after :: made) last

/-- Sequence numbers of a mint have twelve bits and its worker ten, and its millisecond is one that
identifiers can tell. -/
structure Sound (m : Mint) : Prop where
  worker : m.worker < 1024
  sequence : m.sequence < 4096
  dated : Snowflake.Dated m.last

/-- A mint that has moved on, to a later millisecond or a higher sequence number. -/
def Before (m after : Mint) : Prop :=
  after.worker = m.worker ∧
    (m.last < after.last ∨ (after.last = m.last ∧ m.sequence < after.sequence))

theorem Before.trans {a b c : Mint} (first : Before a b) (second : Before b c) : Before a c := by
  obtain ⟨worker, first⟩ := first
  obtain ⟨worker', second⟩ := second
  refine ⟨worker'.trans worker, ?_⟩
  omega

/-- A mint that waits for a later reading sees none, or skips all before the first. -/
theorem dropWhile_waits (late : Int) (readings : List Int) :
    (readings.dropWhile (fun r => r ≤ late) = [] ∧ ∀ r ∈ readings, r ≤ late) ∨
      ∃ between new rest, readings = between ++ new :: rest ∧ (∀ r ∈ between, r ≤ late) ∧
        late < new := by
  induction readings with
  | nil => exact .inl ⟨rfl, by simp⟩
  | cons reading others ih =>
    by_cases old : reading ≤ late
    · rw [List.dropWhile_cons_of_pos (by simpa using old)]
      rcases ih with ⟨waits, all⟩ | ⟨between, new, rest, rfl, blocked, freed⟩
      · exact .inl ⟨waits, List.forall_mem_cons.mpr ⟨old, all⟩⟩
      · exact .inr ⟨reading :: between, new, rest, rfl, List.forall_mem_cons.mpr ⟨old, blocked⟩,
          freed⟩
    · exact .inr ⟨[], reading, others, rfl, by simp, by omega⟩

/-- A step that is possible is the one that the next call makes. -/
theorem Step.next (makes : m.Step taken after) (rest : List Int) :
    m.next (taken ++ rest) = some ((after.newest, after), rest) := by
  cases makes with
  | later new =>
    unfold Mint.next
    simp only [List.cons_append, List.nil_append, if_pos new]
    rfl
  | @numbered reading old left =>
    have unspent : (m.sequence + 1) % 4096 = m.sequence + 1 := Nat.mod_eq_of_lt left
    unfold Mint.next
    simp only [List.cons_append, List.nil_append, if_neg (Int.not_lt.mpr old), unspent]
    rfl
  | @waited reading new between old spent blocked freed =>
    have found : (between ++ [new] ++ rest).dropWhile (fun r => r ≤ m.last) = new :: rest := by
      rw [List.append_assoc, List.dropWhile_append_of_pos (by simpa using blocked)]
      exact List.dropWhile_cons_of_neg (by simpa using freed)
    unfold Mint.next
    simp only [List.cons_append, if_neg (Int.not_lt.mpr old), spent, found]
    rfl

/-- A call makes a step, and gives back the readings that it did not look at, or it waits while the
readings run out. -/
theorem next_cases (bounded : m.sequence < 4096) (readings : List Int) :
    (∃ taken rest after, readings = taken ++ rest ∧ m.Step taken after) ∨
      (m.next readings = none ∧
        (readings = [] ∨ (m.sequence = 4095 ∧ ∀ r ∈ readings, r ≤ m.last))) := by
  cases readings with
  | nil => exact .inr ⟨rfl, .inl rfl⟩
  | cons reading others =>
    by_cases new : m.last < reading
    · exact .inl ⟨[reading], others, _, rfl, .later new⟩
    have old : reading ≤ m.last := Int.not_lt.mp new
    by_cases left : m.sequence + 1 < 4096
    · exact .inl ⟨[reading], others, _, rfl, .numbered old left⟩
    have spent : m.sequence + 1 = 4096 := by omega
    rcases dropWhile_waits m.last others with ⟨waits, all⟩ |
      ⟨between, first, rest, rfl, blocked, freed⟩
    · refine .inr ⟨?_, .inr ⟨by omega, List.forall_mem_cons.mpr ⟨old, all⟩⟩⟩
      unfold Mint.next
      simp only [if_neg new, spent, waits]
      rfl
    · exact .inl ⟨reading :: (between ++ [first]), rest, _, by simp,
        .waited old spent blocked freed⟩

theorem Step.before (makes : m.Step taken after) : m.Before after := by
  cases makes with
  | later new => exact ⟨rfl, .inl new⟩
  | numbered => exact ⟨rfl, .inr ⟨rfl, Nat.lt_succ_self _⟩⟩
  | waited _ _ _ freed => exact ⟨rfl, .inl freed⟩

theorem Step.bounded (makes : m.Step taken after) : after.sequence < 4096 := by
  cases makes with
  | later | waited => exact Nat.zero_lt_succ _
  | numbered _ left => exact left

/-- Readings that can be told keep a mint sound. -/
theorem Step.sound (makes : m.Step taken after) (sound : m.Sound)
    (dated : ∀ r ∈ taken, Snowflake.Dated r) : after.Sound := by
  have bounded := makes.bounded
  cases makes with
  | later | waited => exact ⟨sound.worker, bounded, dated _ (by simp)⟩
  | numbered => exact ⟨sound.worker, bounded, sound.dated⟩

/-- The identifier of a sound mint tells what it was made of. -/
theorem Sound.newest_parts (sound : m.Sound) : m.newest.timestamp = m.last ∧
    m.newest.worker = m.worker ∧ m.newest.sequence = m.sequence :=
  ⟨Snowflake.timestamp_ofParts sound.dated sound.worker sound.sequence,
    Snowflake.worker_ofParts sound.dated sound.worker sound.sequence,
    Snowflake.sequence_ofParts sound.dated sound.worker sound.sequence⟩

/-- A mint that has moved on has made a higher identifier. -/
theorem Before.newest_lt (earlier : m.Before after) (sound : m.Sound) (sound' : after.Sound) :
    m.newest < after.newest := by
  obtain ⟨millis, worker, sequence⟩ := sound.newest_parts
  obtain ⟨millis', worker', sequence'⟩ := sound'.newest_parts
  obtain ⟨same, moved⟩ := earlier
  rw [Snowflake.lt_iff_parts, millis, millis', worker, worker', sequence, sequence', same]
  omega

/-- Along a run every mint is sound, and comes after all mints before it. -/
theorem Run.ascending (run : m.Run readings made last) (sound : m.Sound)
    (dated : ∀ r ∈ readings, Snowflake.Dated r) :
    (∀ state ∈ made, m.Before state ∧ state.Sound) ∧ made.Pairwise Before := by
  induction run with
  | stop => exact ⟨by simp, .nil⟩
  | @call m after last taken rest made makes on ih =>
    have sound' : after.Sound :=
      makes.sound sound fun r listed => dated r (List.mem_append_left rest listed)
    obtain ⟨later, ordered⟩ :=
      ih sound' fun r listed => dated r (List.mem_append_right taken listed)
    refine ⟨List.forall_mem_cons.mpr ⟨⟨makes.before, sound'⟩, fun state listed => ?_⟩, ?_⟩
    · exact ⟨makes.before.trans (later state listed).1, (later state listed).2⟩
    · exact List.pairwise_cons.mpr ⟨fun state listed => (later state listed).1, ordered⟩

/-- Identifiers made in a run come in strictly ascending order. -/
theorem Run.newest_ascending (run : m.Run readings made last) (sound : m.Sound)
    (dated : ∀ r ∈ readings, Snowflake.Dated r) :
    (made.map newest).Pairwise (· < ·) := by
  obtain ⟨later, ordered⟩ := run.ascending sound dated
  refine List.pairwise_map.mpr (ordered.imp_of_mem fun listed listed' earlier => ?_)
  exact earlier.newest_lt (later _ listed).2 (later _ listed').2

/-- What a run made is what is made of its readings, whatever readings follow. -/
theorem Run.take (run : m.Run taken made last) (rest : List Int) :
    m.take (taken ++ rest) made.length = made.map newest := by
  induction run with
  | stop => rfl
  | @call m after last taken more made makes on ih =>
    rw [List.length_cons, List.append_assoc, Mint.take, makes.next, List.map_cons, ← ih]

/-- Identifiers are made by a run, until there are enough of them or the mint waits while the
readings run out. -/
theorem take_run (bounded : m.sequence < 4096) (readings : List Int) (n : Nat) :
    ∃ taken rest made last, readings = taken ++ rest ∧ m.Run taken made last ∧
      m.take readings n = made.map newest ∧
      (made.length = n ∨ (made.length < n ∧
        (rest = [] ∨ (last.sequence = 4095 ∧ ∀ r ∈ rest, r ≤ last.last)))) := by
  induction n generalizing m readings with
  | zero => exact ⟨[], readings, [], m, rfl, .stop m, rfl, .inl rfl⟩
  | succ n ih =>
    rcases next_cases bounded readings with ⟨taken, rest, after, rfl, makes⟩ | ⟨none, waits⟩
    · obtain ⟨taken', rest', made, last, rfl, run, given, ended⟩ := ih makes.bounded rest
      refine ⟨taken ++ taken', rest', after :: made, last, by simp, .call makes run, ?_, ?_⟩
      · rw [take, makes.next, List.map_cons, ← given]
      · exact ended.imp (congrArg Nat.succ) (And.imp_left Nat.succ_lt_succ)
    · exact ⟨[], readings, [], m, rfl, .stop m, by rw [take, none]; rfl,
        .inr ⟨Nat.succ_pos n, waits⟩⟩

/-- A run goes on with one more call. -/
theorem Run.snoc {mid : Mint} (run : m.Run readings made mid) (makes : mid.Step taken after) :
    m.Run (readings ++ taken) (made ++ [after]) after := by
  induction run with
  | stop m => simpa using Run.call makes (.stop after)
  | call first on ih =>
    rw [List.append_assoc]
    exact .call first (ih makes)

section Clocks
variable {clock : Nat → Int}

def firstReadings (clock : Nat → Int) (k : Nat) : List Int := (List.range k).map clock

/-- A clock on which a mint never waits for ever: when calls have spent the sequence numbers of a
millisecond, a later reading comes. -/
def Freed (m : Mint) (clock : Nat → Int) : Prop :=
  ∀ k made last, m.Run (firstReadings clock k) made last → last.sequence = 4095 →
    ∃ j, k ≤ j ∧ last.last < clock j

theorem firstReadings_of_append {k : Nat} (split : firstReadings clock k = taken ++ rest) :
    taken = firstReadings clock taken.length := by
  have length : k = taken.length + rest.length := by
    simpa [firstReadings] using congrArg List.length split
  have cut := congrArg (List.take taken.length) split
  rw [List.take_left, firstReadings, ← List.map_take, List.take_range,
    Nat.min_eq_left (by omega)] at cut
  exact cut.symm

/-- On such a clock any number of calls comes to its end. -/
theorem Freed.run (freed : m.Freed clock) (bounded : m.sequence < 4096) (n : Nat) :
    ∃ k made last, m.Run (firstReadings clock k) made last ∧ last.sequence < 4096 ∧
      made.length = n := by
  induction n with
  | zero => exact ⟨0, [], m, .stop m, bounded, rfl⟩
  | succ n ih =>
    obtain ⟨k, made, last, run, bounded, rfl⟩ := ih
    -- Up to a later reading if the mint has to wait for one, else just one more.
    have enough : ∃ j, k ≤ j ∧ (last.sequence = 4095 → last.last < clock j) := by
      by_cases spent : last.sequence = 4095
      · obtain ⟨j, later, new⟩ := freed k made last run spent
        exact ⟨j, later, fun _ => new⟩
      · exact ⟨k, Nat.le_refl k, fun waits => absurd waits spent⟩
    obtain ⟨j, later, new⟩ := enough
    have more : firstReadings clock (j + 1) =
        firstReadings clock k ++ (List.range' k (j + 1 - k)).map clock := by
      have cut := List.range'_append_1 (s := 0) (m := k) (n := j + 1 - k)
      rw [Nat.zero_add, Nat.add_sub_cancel' (by omega)] at cut
      rw [firstReadings, firstReadings, List.range_eq_range', ← cut, List.map_append,
        ← List.range_eq_range']
    rcases next_cases bounded ((List.range' k (j + 1 - k)).map clock) with
      ⟨taken, rest, after, split, makes⟩ | ⟨-, waits⟩
    · rw [split, ← List.append_assoc] at more
      have run' := run.snoc makes
      rw [firstReadings_of_append more] at run'
      exact ⟨_, _, after, run', makes.bounded, by simp⟩
    · have listed : clock j ∈ (List.range' k (j + 1 - k)).map clock :=
        List.mem_map.mpr ⟨j, by rw [List.mem_range'_1]; omega, rfl⟩
      rcases waits with empty | ⟨spent, all⟩
      · rw [empty] at listed
        cases listed
      · exact absurd (all _ listed) (Int.not_le.mpr (new spent))

end Clocks

/-- A new mint is sound: its millisecond, which is that of the Unix epoch, can be told. -/
theorem new?_sound {worker : Nat} (small : worker < workers) :
    ∃ m, new? worker = some m ∧ m.worker = worker ∧ m.Sound :=
  have told : Snowflake.Dated 0 := by decide
  ⟨⟨worker, 0, 0⟩, if_pos small, rfl, small, Nat.zero_lt_succ _, told⟩

/-- The identifiers of a sound mint come in ascending order, each from a state of one run. -/
theorem Sound.take (sound : m.Sound) (dated : ∀ r ∈ readings, Snowflake.Dated r) (n : Nat) :
    (m.take readings n).Pairwise (· < ·) ∧
      ∃ taken rest made last, readings = taken ++ rest ∧ m.Run taken made last ∧
        m.take readings n = made.map newest ∧
        ∀ state ∈ made, state.newest.timestamp = state.last ∧ state.newest.worker = m.worker ∧
          state.newest.sequence = state.sequence := by
  obtain ⟨taken, rest, made, last, rfl, run, given, -⟩ := take_run sound.sequence readings n
  have dated : ∀ r ∈ taken, Snowflake.Dated r :=
    fun r listed => dated r (List.mem_append_left rest listed)
  obtain ⟨later, -⟩ := run.ascending sound dated
  refine ⟨given ▸ run.newest_ascending sound dated, taken, rest, made, last, rfl, run, given, ?_⟩
  intro state listed
  obtain ⟨moved, sound'⟩ := later state listed
  obtain ⟨millis, worker, sequence⟩ := sound'.newest_parts
  exact ⟨millis, worker.trans moved.1, sequence⟩

/-- Calls on a new mint: its worker, the readings of its clock, and how many calls there are. -/
structure Calls where
  worker : Nat
  readings : List Int
  count : Nat

namespace Calls

def ids (c : Calls) : List Snowflake :=
  ((new? c.worker).map fun m => m.take c.readings c.count).getD []

/-- The mint can be made, and all readings of its clock can be told. -/
def Fair (c : Calls) : Prop := c.worker < workers ∧ ∀ r ∈ c.readings, Snowflake.Dated r

theorem Fair.ids {c : Calls} (fair : c.Fair) :
    c.ids.Nodup ∧ ∀ id ∈ c.ids, id.worker = c.worker := by
  obtain ⟨m, new, worker, sound⟩ := new?_sound fair.1
  obtain ⟨ascending, _, _, made, _, -, -, given, told⟩ := sound.take fair.2 c.count
  have ids : c.ids = m.take c.readings c.count := by simp [Calls.ids, new]
  rw [ids]
  have distinct : (m.take c.readings c.count).Nodup := ascending.imp fun {a b} below same =>
    Int.ne_of_lt below (congrArg Snowflake.toInt same)
  refine ⟨distinct, fun id listed => ?_⟩
  rw [given] at listed
  obtain ⟨state, member, rfl⟩ := List.mem_map.mp listed
  exact (told state member).2.1.trans worker

/-- Mints of different workers have no identifier in common. -/
theorem flatMap_nodup {calls : List Calls} (fair : ∀ c ∈ calls, c.Fair)
    (apart : (calls.map (·.worker)).Nodup) : (calls.flatMap Calls.ids).Nodup := by
  refine List.nodup_flatMap.mpr ⟨fun c listed => (fair c listed).ids.1, ?_⟩
  refine (List.pairwise_map.mp apart).imp_of_mem fun listed listed' different => ?_
  intro id member member'
  exact different (((fair _ listed).ids.2 id member).symm.trans ((fair _ listed').ids.2 id member'))

end Calls

/-- Identifiers made by a mint for any clock whose readings can be told. They are strictly
ascending, and each tells the millisecond, the worker and the sequence number that it was made of.
As many are made as are asked for if a later reading comes whenever the sequence numbers are spent.
Mints of different workers make none in common, however their calls interleave. -/
theorem identifiers_are_unique_and_ordered {worker : Nat} (small : worker < workers) :
    ∃ m, new? worker = some m ∧
      (∀ readings n, (∀ r ∈ readings, Snowflake.Dated r) →
        (m.take readings n).Pairwise (· < ·) ∧
        ∃ taken rest made last, readings = taken ++ rest ∧ m.Run taken made last ∧
          m.take readings n = made.map newest ∧
          ∀ state ∈ made, state.newest.timestamp = state.last ∧ state.newest.worker = worker ∧
            state.newest.sequence = state.sequence) ∧
      (∀ clock, m.Freed clock → ∀ n, ∃ k, (m.take (firstReadings clock k) n).length = n) ∧
      ∀ calls : List Calls, (∀ c ∈ calls, c.Fair) → (calls.map (·.worker)).Nodup →
        ∀ ids : List Snowflake, ids.Perm (calls.flatMap Calls.ids) → ids.Nodup := by
  obtain ⟨m, new, rfl, sound⟩ := new?_sound small
  refine ⟨m, new, fun readings n dated => sound.take dated n, fun clock freed n => ?_,
    fun calls fair apart ids shuffled => ?_⟩
  · obtain ⟨k, made, last, run, -, rfl⟩ := freed.run sound.sequence n
    have given := run.take []
    rw [List.append_nil] at given
    exact ⟨k, by rw [given, List.length_map]⟩
  · exact shuffled.nodup_iff.mpr (Calls.flatMap_nodup fair apart)

/-- Worker 3 makes three identifiers in the first milliseconds of the epoch while its clock steps
back, and as many as are wanted of a clock that goes on; worker 4 makes others of the same
readings. -/
theorem identifiers_are_unique_and_ordered_sample :
    let readings := [Snowflake.epoch, Snowflake.epoch, Snowflake.epoch - 5]
    (⟨3, readings, 3⟩ : Calls).ids =
        [.ofParts Snowflake.epoch 3 0, .ofParts Snowflake.epoch 3 1, .ofParts Snowflake.epoch 3 2] ∧
      (⟨3, readings, 3⟩ : Calls).ids.Pairwise (· < ·) ∧
      ((⟨3, readings, 3⟩ : Calls).ids ++ (⟨4, readings, 3⟩ : Calls).ids).Nodup ∧
      ∃ m, new? 3 = some m ∧
        ∀ n, ∃ k, (m.take (firstReadings (fun i => Snowflake.epoch + i) k) n).length = n := by
  intro readings
  have dated : ∀ r ∈ readings, Snowflake.Dated r := by decide
  have small : 3 < workers := by decide
  obtain ⟨m, new, ordered, endless, apart⟩ := identifiers_are_unique_and_ordered small
  have calls : (⟨3, readings, 3⟩ : Calls).ids = m.take readings 3 := by simp [Calls.ids, new]
  refine ⟨by decide, calls ▸ (ordered readings 3 dated).1, ?_, m, new, endless _ ?_⟩
  · refine apart [⟨3, readings, 3⟩, ⟨4, readings, 3⟩] ?_ (by decide) _ (by simp)
    simp only [List.forall_mem_cons]
    exact ⟨⟨by decide, dated⟩, ⟨by decide, dated⟩, by simp⟩
  · intro k made last _ _
    refine ⟨max k (last.last - Snowflake.epoch + 1).toNat, Nat.le_max_left _ _, ?_⟩
    dsimp only
    omega

end Mint
end GuildAccess
