import Vetted.Failure
import Vetted.Log

namespace Vetted

structure Logged (α : Type) where
  log : List Log.Entry
  result : Except Failure α
deriving Inhabited

namespace Logged

variable {α β γ : Type}

/-- A result without a log. -/
def of (result : Except Failure α) : Logged α := ⟨[], result⟩

def fail (failure : Failure) : Logged α := ⟨[], .error failure⟩

def noteAll (entries : List Log.Entry) : Logged Unit := ⟨entries, .ok ()⟩

def note (entry : Log.Entry) : Logged Unit := noteAll [entry]

/-- One computation after another, if the first succeeds. -/
protected def bind (first : Logged α) (next : α → Logged β) : Logged β :=
  match first.result with
  | .error failure => ⟨first.log, .error failure⟩
  | .ok a => ⟨first.log ++ (next a).log, (next a).result⟩

instance : Monad Logged where
  pure a := ⟨[], .ok a⟩
  bind := Logged.bind

@[simp] theorem result_pure (a : α) : (pure a : Logged α).result = .ok a := rfl

@[simp] theorem result_of (r : Except Failure α) : (of r).result = r := rfl

@[simp] theorem result_fail (failure : Failure) : (fail failure : Logged α).result = .error failure := rfl

@[simp] theorem result_noteAll (entries : List Log.Entry) : (noteAll entries).result = .ok () := rfl

@[simp] theorem result_note (entry : Log.Entry) : (note entry).result = .ok () := rfl

@[simp] theorem result_bind (first : Logged α) (next : α → Logged β) :
    (first >>= next).result = first.result >>= fun a => (next a).result := by
  cases first with
  | mk log result => cases result <;> rfl

private theorem bind_pure (x : Logged α) : x.bind pure = x := by
  obtain ⟨log, result⟩ := x
  cases result with
  | error failure => rfl
  | ok a => exact congrArg (fun log => Logged.mk log (.ok a)) (List.append_nil log)

private theorem bind_assoc (x : Logged α) (f : α → Logged β) (g : β → Logged γ) :
    (x.bind f).bind g = x.bind fun a => (f a).bind g := by
  obtain ⟨log, result⟩ := x
  cases result with
  | error failure => rfl
  | ok a =>
      simp only [Logged.bind]
      cases (f a).result <;> simp

instance : LawfulMonad Logged := LawfulMonad.mk' Logged bind_pure (fun _ _ => rfl) bind_assoc

@[simp] theorem result_mapM (f : α → Logged β) (xs : List α) :
    (xs.mapM f).result = xs.mapM fun x => (f x).result := by
  induction xs with
  | nil => rfl
  | cons x xs ih =>
      simp only [List.mapM_cons, result_bind, ih, result_pure]
      rfl

end Logged

end Vetted
