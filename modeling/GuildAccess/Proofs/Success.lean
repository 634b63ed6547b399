import GuildAccess.Proofs.AuditTrail
import GuildAccess.Proofs.Store.Reads

/-!
What is behind an answer. A call that succeeds was judged to an answer, or it made the change it was
judged to and answered from the store right after it. What is written to logs afterwards is never
read by anything but the log itself, so the answer is about the store that the next caller finds.
-/
namespace GuildAccess

/-- What a ruling that was carried out makes of a store, and the answer it gives. -/
inductive Ruling.CarriedOut (now : Instant) (before : Store) : Ruling → Store → Answer → Prop
  | answer {a : Answer} : CarriedOut now before (.answer a) before a
  | plan {p : Plan} {store after : Store} (done : before.apply now p.change = .ok store)
    (same : store.ReadsAs after) : CarriedOut now before (.plan p) after (p.answer store)
  | append {entry : Audit.Entry} {after : Store} (same : before.ReadsAs after) :
    CarriedOut now before (.append entry) after .done
  | offer {entry : Audit.Entry} {after : Store} (same : before.ReadsAs after) :
    CarriedOut now before (.offer entry) after .done
  | report {denial : Denial} {after : Store} (same : before.ReadsAs after) :
    CarriedOut now before (.report denial) after .done

def Ruling.Plans (ruling : Ruling) (change : Store.Change) (told : Store → Answer) : Prop :=
  ∃ p, ruling = .plan p ∧ p.change = change ∧ p.answer = told

theorem Ruling.Plans.carriedOut {ruling : Ruling} {change : Store.Change} {told : Store → Answer}
    {now : Instant} {before after : Store} {answer : Answer} (plans : ruling.Plans change told)
    (carried : ruling.CarriedOut now before after answer) :
    ∃ store, before.apply now change = .ok store ∧ answer = told store ∧ store.ReadsAs after := by
  obtain ⟨p, rfl, rfl, rfl⟩ := plans
  cases carried with
  | plan done same => exact ⟨_, done, rfl, same⟩

namespace Service
variable {service after : Service} {around : Surroundings} {call : Call} {answer : Answer}

theorem append_readsAs {entry : Audit.Entry} (done : service.append around entry = .ok after) :
    service.store.ReadsAs after.store where
  tables := (append_quiet done).tables
  index kind := by
    unfold append at done
    split at done
    · split at done
      · next store appended =>
        cases done
        have done : service.store.apply around.now (.appendAudit entry) = .ok store := appended
        cases kind <;> exact Store.apply_index done _
      · cases done
    · cases done

theorem log_readsAs (draft : Snowflake → Instant → Audit.Entry) :
    service.store.ReadsAs (service.log around draft).store := by
  unfold log
  dsimp only
  split
  · next after done =>
    have same : Store.ReadsAs { service with issued := service.issued + 1 }.store after.store :=
      append_readsAs done
    exact same
  · exact .refl _

/-- A call that succeeds carries out what it was judged to. -/
theorem handle_ok (done : service.handle around call = (after, .ok answer)) :
    ∃ ruling, call.judge service.store around (around.idAt (service.issued + 1)) = .ok ruling ∧
      ruling.CarriedOut around.now service.store after.store answer := by
  rcases handle_settles service around call with ⟨cause, -, refused⟩ |
    ⟨held, store, issued, handled⟩
  · cases refused.symm.trans done
  · rw [store, issued] at handled
    rw [handled] at done
    rw [← store]
    cases judged : call.judge service.store around (around.idAt (service.issued + 1)) with
    | error refusal =>
      rw [judged] at done
      cases refusal <;> cases done
    | ok ruling =>
      rw [judged] at done
      refine ⟨ruling, by rw [store, judged], ?_⟩
      cases ruling with
      | answer a =>
        cases done
        exact .answer
      | report denial =>
        cases done
        exact .report (log_readsAs _)
      | append entry =>
        unfold settle at done
        dsimp only at done
        split at done
        · next appended =>
          cases done
          exact .append (append_readsAs appended)
        · cases done
      | offer entry =>
        unfold settle at done
        dsimp only at done
        split at done
        · next appended =>
          cases done
          exact .offer (append_readsAs appended)
        · cases done
          exact .offer (.refl _)
      | plan p =>
        unfold settle at done
        rcases execute_changes held around p with ⟨cause, issued, -, -, failed⟩ |
          ⟨store, applied, executed⟩
        · cases failed.symm.trans done
        · cases executed.symm.trans done
          refine .plan applied ?_
          cases p.note with
          | none => exact .refl _
          | some note =>
            have same : (held.changed p store).store.ReadsAs
                ((held.changed p store).log around note.entry).store := log_readsAs _
            exact same

/-- A call that succeeds was admitted. -/
theorem enter_of_ok (done : service.handle around call = (after, .ok answer)) :
    ∃ lock, call.enter service.store = .ok lock := by
  cases entered : call.enter service.store with
  | ok lock => exact ⟨lock, rfl⟩
  | error cause =>
    unfold handle at done
    rw [entered] at done
    cases done

/-- An admitted call is settled as it is judged. -/
theorem handle_of_enter {lock : Option Snowflake} (entered : call.enter service.store = .ok lock) :
    service.handle around call = (service.takeLock lock).settle around
      (call.judge service.store around (around.idAt (service.issued + 1))) := by
  unfold handle
  rw [entered]
  dsimp only
  rw [takeLock_store, takeLock_issued]

/-- An admitted call that is judged to an answer gives it, and no more than a lock is taken. -/
theorem handle_answer {lock : Option Snowflake} (entered : call.enter service.store = .ok lock)
    (judged : call.judge service.store around (around.idAt (service.issued + 1)) =
      .ok (.answer answer)) : service.handle around call = (service.takeLock lock, .ok answer) := by
  rw [handle_of_enter entered, judged]
  rfl

/-- An admitted call that is judged to an error fails with it, and no more than a lock is taken. -/
theorem handle_refusal {lock : Option Snowflake} {cause : CallError}
    (entered : call.enter service.store = .ok lock)
    (judged : call.judge service.store around (around.idAt (service.issued + 1)) =
      .error (.error cause)) :
    service.handle around call = (service.takeLock lock, .error cause) := by
  rw [handle_of_enter entered, judged]
  rfl

/-- A plan whose change can be made succeeds, and after the change only logs are written. -/
theorem execute_made {p : Plan} {store : Store}
    (made : service.store.apply around.now p.change = .ok store) :
    ∃ after, service.execute around p = (after, .ok (p.answer store)) ∧
      store.ReadsAs after.store := by
  rcases execute_changes service around p with ⟨cause, _, unmade, -, -⟩ | ⟨_, made', executed⟩
  · cases made.symm.trans unmade
  · cases made.symm.trans made'
    refine ⟨_, executed, ?_⟩
    cases p.note with
    | none => exact .refl _
    | some note =>
      have same : (service.changed p store).store.ReadsAs
          ((service.changed p store).log around note.entry).store := log_readsAs _
      exact same

/-- An admitted call whose plan can be carried out succeeds. -/
theorem handle_made {lock : Option Snowflake} {p : Plan} {store : Store}
    (entered : call.enter service.store = .ok lock)
    (judged : call.judge service.store around (around.idAt (service.issued + 1)) = .ok (.plan p))
    (made : service.store.apply around.now p.change = .ok store) :
    ∃ after, service.handle around call = (after, .ok (p.answer store)) ∧
      store.ReadsAs after.store := by
  rw [handle_of_enter entered, judged]
  refine execute_made ?_
  rw [takeLock_store]
  exact made

/-- A call that succeeds by a plan carries it out, on a service that differs in locks at most. -/
theorem handle_plan {p : Plan} (done : service.handle around call = (after, .ok answer))
    (planned : call.judge service.store around (around.idAt (service.issued + 1)) = .ok (.plan p)) :
    ∃ held : Service, held.store = service.store ∧ held.execute around p = (after, .ok answer) := by
  rcases handle_settles service around call with ⟨cause, -, refused⟩ |
    ⟨held, store, issued, handled⟩
  · cases refused.symm.trans done
  · refine ⟨held, store, ?_⟩
    rw [← done, handled, store, issued, planned]
    rfl

end Service

end GuildAccess
