import AuditReports.Proofs.Controller.Sessions

/-!
# Comparing two runs

Some properties are about two runs at once: one with a rejected request and one without it, one of a
used controller and one of a new one, one with downloads and one without. The two worlds then go
through the same things at the same times, except that the submissions of one may come after some
that the other has not got.

A relation between such worlds is in lockstep if it shows in what happens next and when, and if
every action and every moving of the clock keeps it. Settling and the passing of time keep it then,
because they are made of nothing else.

What a session tells after a step is put together from the results of the submissions and from what
has passed between the controller and the service. How these depend on the two worlds before and
after the step is the second part of this module.
-/

namespace AuditReports

namespace World

variable {σ : Type} (service : ReportService σ)

/-! ## Lockstep -/

/-- A relation between worlds that is kept by whatever happens of its own accord. The submissions of
the world on the right come `ahead` places later in the one on the left. -/
structure Lockstep (ahead : Nat) (related : World σ → World σ → Prop) : Prop where
  now : ∀ {left right}, related left right → left.now = right.now
  pendingWork : ∀ {left right}, related left right → left.pendingWork = right.pendingWork
  nextAction? : ∀ {left right}, related left right →
    left.nextAction? = right.nextAction?.map fun next => (ahead + next.1, next.2)
  nextWake? : ∀ {left right}, related left right → left.nextWake? = right.nextWake?
  perform : ∀ {left right}, related left right → ∀ index action,
    related (left.perform service (ahead + index) action) (right.perform service index action)
  moveTo : ∀ {left right}, related left right → ∀ moment,
    related { left with now := moment } { right with now := moment }

namespace Lockstep

variable {service} {ahead : Nat} {related : World σ → World σ → Prop} {left right : World σ}

theorem drain (lockstep : Lockstep service ahead related) (together : related left right)
    (budget : Nat) :
    related (World.drain service budget left) (World.drain service budget right) := by
  induction budget generalizing left right with
  | zero => exact together
  | succ budget ih =>
      simp only [World.drain, lockstep.nextAction? together]
      cases right.nextAction? with
      | none => exact together
      | some next => exact ih (lockstep.perform together next.1 next.2)

theorem settle (lockstep : Lockstep service ahead related) (together : related left right) :
    related (World.settle service left) (World.settle service right) := by
  rw [World.settle, World.settle, lockstep.pendingWork together]
  exact lockstep.drain together right.pendingWork

theorem passTo (lockstep : Lockstep service ahead related) (together : related left right)
    (target budget : Nat) :
    related (World.passTo service target budget left)
      (World.passTo service target budget right) := by
  induction budget generalizing left right with
  | zero => exact lockstep.moveTo together target
  | succ budget ih =>
      simp only [World.passTo, lockstep.nextWake? together, lockstep.now together]
      cases right.nextWake? with
      | none => exact lockstep.moveTo together target
      | some wake =>
          simp only
          split
          · exact ih (lockstep.settle (lockstep.moveTo together (max right.now wake)))
          · exact lockstep.moveTo together target

theorem advance (lockstep : Lockstep service ahead related) (together : related left right)
    (span : Nat) :
    related (World.advance service left span) (World.advance service right span) := by
  rw [World.advance, World.advance, lockstep.now together]
  exact lockstep.passTo together (right.now + span) (span + 1)

end Lockstep

/-- In the same phase a request is taken or turned away in the same way. -/
theorem claim_alike {left right : World σ} (phase : left.snapshot.phase = right.snapshot.phase)
    (request : ReportRequest) :
    (∃ error, left.claim request = .error error ∧ right.claim request = .error error) ∨
      ∃ payload, left.claim request = .ok (left.accept payload) ∧
        right.claim request = .ok (right.accept payload) := by
  simp only [claim, phase]
  cases request.check with
  | error error => exact Or.inl ⟨_, rfl, rfl⟩
  | ok payload =>
      dsimp only
      split
      · exact Or.inl ⟨_, rfl, rfl⟩
      · exact Or.inr ⟨payload, rfl, rfl⟩

/-- The requests to the service so far, each with its time. -/
def calls (world : World σ) : List (Nat × Exchange) :=
  (world.chronicle.toList.filter (·.exchange.isRequest)).map fun entry =>
    (entry.time, entry.exchange)

end World

/-! ## What a session tells -/

namespace Session

variable {σ : Type}

theorem result?_eq_some_iff {world : World σ} {index : Nat} {result : Except ReportError String} :
    result? world index = some result ↔
      ∃ submission, world.submissions[index]? = some submission ∧
        submission.stage = .returned result := by
  cases found : world.submissions[index]? with
  | none => simp [result?, found]
  | some submission => cases stage : submission.stage <;> simp [result?, found, stage]

theorem finishedBetween_append (before after : World σ) (number : Nat)
    (first second : List (Option Nat)) :
    finishedBetween before after number (first ++ second) =
      finishedBetween before after number first ++
        finishedBetween before after (number + first.length) second := by
  induction first generalizing number with
  | nil => rfl
  | cons place first ih =>
      have rest := ih (number + 1)
      rw [Nat.add_assoc, Nat.add_comm 1] at rest
      cases place with
      | none => exact rest
      | some index =>
          simp only [List.cons_append, finishedBetween, List.length_cons, rest]
          split <;> rfl

/-- Nothing is told of submissions that have not returned in the meantime. -/
theorem finishedBetween_eq_nil {before after : World σ} {submits : List (Option Nat)}
    (kept : ∀ index, some index ∈ submits → result? after index = result? before index)
    (number : Nat) : finishedBetween before after number submits = [] := by
  induction submits generalizing number with
  | nil => rfl
  | cons place submits ih =>
      have rest := ih (fun index listed => kept index (List.mem_cons_of_mem _ listed)) (number + 1)
      cases place with
      | none => simpa [finishedBetween] using rest
      | some index =>
          rw [finishedBetween, kept index List.mem_cons_self, rest]
          cases result? before index <;> rfl

@[simp]
theorem finishedBetween_self (world : World σ) (number : Nat) (submits : List (Option Nat)) :
    finishedBetween world world number submits = [] :=
  finishedBetween_eq_nil (fun _ _ => rfl) number

/-- Nor is anything told of numbers that were given away to requests that were not accepted. -/
theorem finishedBetween_blank (before after : World σ) (number count : Nat) :
    finishedBetween before after number (List.replicate count none) = [] :=
  finishedBetween_eq_nil (fun _ listed => by simp at listed) number

/-- What is told of submissions depends on their results alone, not on their places. -/
theorem finishedBetween_congr {before after before' after' : World σ} {places : Nat → Nat}
    (first : ∀ index, result? before (places index) = result? before' index)
    (last : ∀ index, result? after (places index) = result? after' index) (number : Nat)
    (submits : List (Option Nat)) :
    finishedBetween before after number (submits.map (Option.map places)) =
      finishedBetween before' after' number submits := by
  induction submits generalizing number with
  | nil => rfl
  | cons place submits ih =>
      cases place with
      | none => exact ih (number + 1)
      | some index =>
          simp only [List.map_cons, Option.map_some, finishedBetween, first, last, ih]

theorem mem_finishedBetween {before after : World σ} {number : Nat} {submits : List (Option Nat)}
    {ended : Nat × Except ReportError String}
    (listed : ended ∈ finishedBetween before after number submits) :
    number ≤ ended.1 ∧ ended.1 < number + submits.length ∧
      ∃ index, some index ∈ submits ∧ result? after index = some ended.2 := by
  induction submits generalizing number with
  | nil => cases listed
  | cons place submits ih =>
      have later : ended ∈ finishedBetween before after (number + 1) submits →
          number ≤ ended.1 ∧ ended.1 < number + (place :: submits).length ∧
            ∃ index, some index ∈ place :: submits ∧ result? after index = some ended.2 := by
        intro listed
        rcases ih listed with ⟨lower, upper, index, among, result⟩
        rw [List.length_cons]
        exact ⟨by omega, by omega, index, List.mem_cons_of_mem _ among, result⟩
      cases place with
      | none => exact later listed
      | some index =>
          simp only [finishedBetween] at listed
          split at listed
          · rename_i result _ returned
            rcases List.mem_cons.mp listed with rfl | listed
            · exact ⟨Nat.le_refl _, by simp, index, List.mem_cons_self, returned⟩
            · exact later listed
          · exact later listed

@[simp]
theorem askedBetween_self (world : World σ) : askedBetween world world = [] := by
  simp [askedBetween]

/-- Only a submission gives a number away. -/
theorem submits_perform (service : ReportService σ) (session : Session σ) (step : Step) :
    (session.perform service step).1.submits = session.submits ∨
      ∃ request, session.perform service step = session.submit service request := by
  cases step with
  | submit request =>
      cases isOpen : session.isOpen with
      | false => exact Or.inl (by simp only [perform, isOpen]; rfl)
      | true => exact Or.inr ⟨request, by simp [perform, isOpen, performOpen]⟩
  | stopPolling => left; simp only [perform]; split <;> rfl
  | reset => left; simp only [perform]; split <;> rfl
  | download jobId => left; simp only [perform]; split <;> rfl
  | _ => exact Or.inl rfl

end Session

end AuditReports
