import RiscvGloss.Event

/-! Results with the events that were noted on the way to them. -/

namespace RiscvGloss

/-- A value and the events noted before it was there, oldest first. -/
structure Logged (α : Type) where
  value : α
  events : List Event
  deriving Repr

namespace Logged

instance : Monad Logged where
  pure value := ⟨value, []⟩
  bind x f :=
    let y := f x.value
    ⟨y.value, x.events ++ y.events⟩

def note (events : List Event) : Logged Unit :=
  ⟨(), events⟩

section

variable {α β : Type}

@[simp] theorem value_pure (a : α) : (pure a : Logged α).value = a := rfl

@[simp] theorem events_pure (a : α) : (pure a : Logged α).events = [] := rfl

@[simp] theorem value_bind (x : Logged α) (f : α → Logged β) :
    (x >>= f).value = (f x.value).value := rfl

@[simp] theorem events_bind (x : Logged α) (f : α → Logged β) :
    (x >>= f).events = x.events ++ (f x.value).events := rfl

@[simp] theorem events_note (events : List Event) : (note events).events = events := rfl

end

instance : LawfulMonad Logged := LawfulMonad.mk' Logged
  (fun x => by simp [Functor.map])
  (fun x f => by simp [pure, bind])
  (fun x f g => by simp [bind])

end Logged

/-- A result or a rejection, with the events noted on the way to either. -/
abbrev Attempt := ExceptT Rejection Logged

end RiscvGloss
