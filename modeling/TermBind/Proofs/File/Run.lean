import TermBind.File.Host

/-! Running programs on a disk: one action after the other, until one fails. -/
namespace TermBind.File

variable {ε α β σ : Type} {before after : σ}

theorem run_bind_of_ok {action : ExceptT ε (StateM σ) α} {value : α}
    (done : action.run.run before = (.ok value, after)) (next : α → ExceptT ε (StateM σ) β) :
    (action >>= next).run.run before = (next value).run.run after := by
  change (do let ended ← action.run.run before; (ExceptT.bindCont next ended.1).run ended.2 :
    Id (Except ε β × σ)) = _
  rw [done]
  rfl

theorem run_bind_of_error {action : ExceptT ε (StateM σ) α} {problem : ε}
    (failed : action.run.run before = (.error problem, after)) (next : α → ExceptT ε (StateM σ) β) :
    (action >>= next).run.run before = (.error problem, after) := by
  change (do let ended ← action.run.run before; (ExceptT.bindCont next ended.1).run ended.2 :
    Id (Except ε β × σ)) = _
  rw [failed]
  rfl

theorem run_lift {action : StateM σ α} {value : α} (done : action.run before = (value, after)) :
    (liftM action : ExceptT ε (StateM σ) α).run.run before = (.ok value, after) := by
  change (do let ended ← action.run before; pure (Except.ok ended.1, ended.2) :
    Id (Except ε α × σ)) = _
  rw [done]
  rfl

section State

variable {τ : Type} {state state' : τ}

theorem run_state_bind {action : StateT τ (StateM σ) α} {value : α}
    (done : (action.run state).run before = ((value, state'), after))
    (next : α → StateT τ (StateM σ) β) :
    ((action >>= next).run state).run before = ((next value).run state').run after := by
  change (let ended := (action.run state).run before
    (((next ended.1.1).run ended.1.2).run ended.2 : Id ((β × τ) × σ))) = _
  rw [done]

theorem run_state_lift {action : StateM σ α} {value : α} (done : action.run before = (value, after))
    (state : τ) :
    ((liftM action : StateT τ (StateM σ) α).run state).run before = ((value, state), after) := by
  change (let ended := action.run before; (((ended.1, state), ended.2) : Id ((α × τ) × σ))) = _
  rw [done]

theorem run_state_get (state : τ) :
    ((get : StateT τ (StateM σ) τ).run state).run before = ((state, state), before) := rfl

end State

namespace Disk

variable (disk : Disk) (path : Path)

theorem run_list : (host.list path).run disk =
    (match disk.node? path with
      | some (.directory entries) => some (.directory (Tree.listing.listings entries))
      | _ => none, disk) := by
  change ((disk.node? path).bind _, disk) = _
  rcases disk.node? path with _ | _ | _ <;> rfl

theorem run_readText :
    (host.readText path).run disk = ((disk.read? path).bind String.fromUTF8?, disk) := rfl

theorem run_createDirectories : (host.createDirectories path).run disk =
    ((disk.createDirectories path).2, (disk.createDirectories path).1) := rfl

theorem run_writeText (text : String) : (host.writeText path text).run disk =
    match disk.write? path text.toUTF8 with
    | some after => (true, after)
    | none => (false, disk) := by
  change (match disk.write? path text.toUTF8 with
    | some after => (do set after; return true : StateM Disk Bool)
    | none => return false).run disk = _
  split <;> rfl

end Disk
end TermBind.File
