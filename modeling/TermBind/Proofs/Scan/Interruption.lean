import Mathlib.Data.List.Basic
import TermBind.Scan.File

/-! Interrupting a scan. A scan comes to one checkpoint for each annotation and has no other effect, so it
gives the interrupt of the first checkpoint that interrupts, or all that it gives otherwise. -/
namespace TermBind.Scan

/-- The annotations of declarations, counted. -/
def annotationCount (scanned : List Declaration) : Nat :=
  (scanned.flatMap Declaration.annotations).length

theorem annotationCount_cons (first : Declaration) (rest : List Declaration) :
    annotationCount (first :: rest) = first.annotations.length + annotationCount rest := by
  rw [annotationCount, List.flatMap_cons, List.length_append]
  rfl

section Checkpoints

variable {m : Type → Type} [Monad m] (checkpoint : m Unit)

/-- A number of checkpoints, one after the other. -/
def checkpoints : Nat → m Unit
  | 0 => return
  | count + 1 => do
    checkpoint
    checkpoints count

variable [LawfulMonad m]

theorem checkpoints_add (earlier later : Nat) :
    checkpoints checkpoint (earlier + later) =
      (checkpoints checkpoint earlier >>= fun _ => checkpoints checkpoint later) := by
  induction earlier with
  | zero => simp [checkpoints]
  | succ earlier ih => rw [Nat.succ_add, checkpoints, checkpoints, ih, bind_assoc]

variable (name : String)

theorem matching_eq_checkpoints (written : List AnnotationUse) :
    matching checkpoint name written = do
      checkpoints checkpoint written.length
      return uninterrupted (matching (pure ()) name written) := by
  induction written with
  | nil => simp [matching, checkpoints, uninterrupted]
  | cons use rest ih => simp [matching, checkpoints, uninterrupted, ih]

theorem declaration_eq_checkpoints (declaration : Declaration) :
    Scan.declaration checkpoint name declaration = do
      checkpoints checkpoint declaration.annotations.length
      return uninterrupted (Scan.declaration (pure ()) name declaration) := by
  simp [Scan.declaration, matching_eq_checkpoints checkpoint, uninterrupted]

theorem declarations_eq_checkpoints (scanned : List Declaration) :
    declarations checkpoint name scanned = do
      checkpoints checkpoint (annotationCount scanned)
      return uninterrupted (declarations (pure ()) name scanned) := by
  induction scanned with
  | nil => simp [declarations, annotationCount, checkpoints, uninterrupted]
  | cons first rest ih =>
    rw [declarations, ih, declaration_eq_checkpoints, annotationCount_cons, checkpoints_add]
    simp [declarations, uninterrupted]

theorem file_eq_checkpoints [Wording] {path root : Path} {text : String}
    {declared : List Source.Declared}
    (parsed : Source.declarations path text root = .ok declared) :
    file checkpoint name path text root = do
      checkpoints checkpoint (annotationCount (declared.map (·.view path.text)))
      return uninterrupted (file (pure ()) name path text root) := by
  simp only [file, parsed]
  exact declarations_eq_checkpoints checkpoint name _

end Checkpoints

section Answers

variable {Interrupt α : Type}

/-- The answers of the checkpoints in their order. An interrupt can be anything. -/
abbrev Answers (Interrupt : Type) := Nat → Except Interrupt Unit

def Signal.answers (signal : Signal) : Answers Cancelled := fun passed =>
  if signal passed then .error .cancelled else .ok ()

/-- The checkpoint that gives one answer after the other. -/
def answered (answers : Answers Interrupt) : ExceptT Interrupt (StateM Nat) Unit := do
  let passed ← getModify (· + 1)
  liftExcept (answers passed)

theorem checkpoint_eq_answered (signal : Signal) : checkpoint signal = answered signal.answers := by
  funext passed
  change (ExceptT.run (if signal passed then throw .cancelled else return : Interruptible Unit)).run
      (passed + 1) = (ExceptT.run (liftExcept (signal.answers passed) : Interruptible Unit)).run (passed + 1)
  rw [Signal.answers]
  split <;> rfl

/-- What a scan gives from the first checkpoint on, and the number of checkpoints that it comes to. -/
def ran (scan : ExceptT Interrupt (StateM Nat) α) : Except Interrupt α × Nat :=
  (ExceptT.run scan).run 0

/-- The first interrupt among a number of answers. -/
structure IsFirstInterrupt (answers : Answers Interrupt) (count index : Nat)
    (interrupt : Interrupt) : Prop where
  within : index < count
  interrupts : answers index = .error interrupt
  passes : ∀ earlier < index, answers earlier = .ok ()

/-- A scan of a number of annotations comes to a checkpoint for each of them, up to the first that
interrupts. There it is given up, and without one it gives the whole of its result. -/
structure IsAllOrNothing (answers : Answers Interrupt) (annotations : Nat) (whole : α)
    (scan : ExceptT Interrupt (StateM Nat) α) : Prop where
  bounded : (ran scan).2 ≤ annotations
  interrupted : (∃ interrupt, (ran scan).1 = .error interrupt) ↔
    ∃ index < annotations, ∃ interrupt, answers index = .error interrupt
  stopped index interrupt : IsFirstInterrupt answers annotations index interrupt →
    ran scan = (.error interrupt, index + 1)
  completed : (∀ index < annotations, answers index = .ok ()) → ran scan = (.ok whole, annotations)

theorem run_answered (answers : Answers Interrupt) (next : Unit → ExceptT Interrupt (StateM Nat) α)
    (passed : Nat) :
    (ExceptT.run (answered answers >>= next)).run passed =
      match answers passed with
      | .ok _ => (ExceptT.run (next ())).run (passed + 1)
      | .error interrupt => (.error interrupt, passed + 1) := by
  have asked : (ExceptT.run (answered answers >>= next)).run passed =
      (ExceptT.run (liftExcept (answers passed) >>= next : ExceptT Interrupt (StateM Nat) α)).run
        (passed + 1) := rfl
  rw [asked]
  cases answers passed <;> rfl

variable {answers : Answers Interrupt}

theorem run_checkpoints {count passed : Nat}
    (passes : ∀ index < count, answers (passed + index) = .ok ())
    (next : Unit → ExceptT Interrupt (StateM Nat) α) :
    (ExceptT.run (checkpoints (answered answers) count >>= next)).run passed =
      (ExceptT.run (next ())).run (passed + count) := by
  induction count generalizing passed with
  | zero => rfl
  | succ count ih =>
    -- The induction is on the checkpoints to come, so the answers passed move on by one.
    have first : answers passed = .ok () := passes 0 (Nat.succ_pos count)
    have others : ∀ index < count, answers (passed + 1 + index) = .ok () := fun index within => by
      simpa [Nat.add_assoc, Nat.add_comm 1] using passes (index + 1) (Nat.succ_lt_succ within)
    rw [checkpoints, bind_assoc, run_answered, first, Nat.add_comm count 1, ← Nat.add_assoc]
    exact ih others

theorem ran_checkpoints_of_ok {count : Nat} (passes : ∀ index < count, answers index = .ok ())
    (whole : α) :
    ran (checkpoints (answered answers) count >>= fun _ => pure whole) = (.ok whole, count) := by
  rw [ran, run_checkpoints (by simpa using passes), Nat.zero_add]
  rfl

/-- The checkpoints after the first interrupt are not come to. -/
theorem ran_checkpoints_of_error {count index : Nat} {interrupt : Interrupt}
    (first : IsFirstInterrupt answers count index interrupt) (whole : α) :
    ran (checkpoints (answered answers) count >>= fun _ => pure whole) =
      (.error interrupt, index + 1) := by
  obtain ⟨later, rfl⟩ : ∃ later, count = index + (later + 1) :=
    ⟨count - index - 1, by have := first.within; omega⟩
  rw [ran, checkpoints_add, bind_assoc, run_checkpoints (by simpa using first.passes), Nat.zero_add,
    checkpoints, bind_assoc, run_answered, first.interrupts]

theorem passes_or_interrupts (answers : Answers Interrupt) (count : Nat) :
    (∀ index < count, answers index = .ok ()) ∨
      ∃ index interrupt, IsFirstInterrupt answers count index interrupt := by
  induction count with
  | zero => exact .inl nofun
  | succ count ih =>
    rcases ih with passes | ⟨index, interrupt, first⟩
    · cases last : answers count with
      | ok _ =>
        refine .inl fun index within => ?_
        rcases Nat.lt_succ_iff_lt_or_eq.mp within with earlier | rfl
        · exact passes index earlier
        · exact last
      | error interrupt => exact .inr ⟨count, interrupt, Nat.lt_succ_self count, last, passes⟩
    · exact .inr ⟨index, interrupt, Nat.lt_succ_of_lt first.within, first.interrupts, first.passes⟩

theorem isAllOrNothing_checkpoints (answers : Answers Interrupt) (count : Nat) (whole : α) :
    IsAllOrNothing answers count whole
      (checkpoints (answered answers) count >>= fun _ => pure whole) := by
  have stopped := fun index interrupt (first : IsFirstInterrupt answers count index interrupt) =>
    ran_checkpoints_of_error first whole
  have completed := fun (passes : ∀ index < count, answers index = .ok ()) =>
    ran_checkpoints_of_ok passes whole
  rcases passes_or_interrupts answers count with passes | ⟨index, interrupt, first⟩
  · refine ⟨Nat.le_of_eq (congrArg Prod.snd (completed passes)), ?_, stopped, completed⟩
    rw [completed passes]
    refine ⟨nofun, ?_⟩
    rintro ⟨index, within, interrupt, interrupts⟩
    cases (passes index within).symm.trans interrupts
  · refine ⟨?_, ?_, stopped, completed⟩
    · rw [stopped index interrupt first]
      exact first.within
    · rw [stopped index interrupt first]
      exact ⟨fun _ => ⟨index, first.within, interrupt, first.interrupts⟩, fun _ => ⟨interrupt, rfl⟩⟩

/-- Scans are interrupted by the first answer that is an interrupt, or give all that they give without a
signal. There is a checkpoint for each annotation, of a declaration or of a file that can be read. A file
that cannot be read is reported before the first. -/
theorem isAllOrNothing_scans [Wording] (Interrupt : Type) (answers : Answers Interrupt) (name : String) :
    (∀ declaration : Declaration,
      IsAllOrNothing answers declaration.annotations.length
        (uninterrupted (Scan.declaration (pure ()) name declaration))
        (Scan.declaration (answered answers) name declaration)) ∧
      (∀ path text root,
        match Source.declarations path text root with
        | .ok declared =>
          IsAllOrNothing answers (annotationCount (declared.map (·.view path.text)))
            (uninterrupted (file (pure ()) name path text root))
            (file (answered answers) name path text root)
        | .failed diagnostics =>
          ran (file (answered answers) name path text root) = (.ok [.failed diagnostics], 0)) ∧
      ∀ signal : Signal, checkpoint signal = answered signal.answers := by
  refine ⟨fun declaration => ?_, fun path text root => ?_, checkpoint_eq_answered⟩
  · rw [declaration_eq_checkpoints (answered answers)]
    exact isAllOrNothing_checkpoints answers _ _
  · split
    · rename_i declared parsed
      rw [file_eq_checkpoints (answered answers) name parsed]
      exact isAllOrNothing_checkpoints answers _ _
    · rename_i diagnostics unread
      rw [file, unread]
      rfl

end Answers
end TermBind.Scan
