import RegionAudit.Event
import RegionAudit.Network.Exchange

/-!
Parts of an audit as they run: a result, the events that are told on the way, and the requests that a remote
side sees. What runs after another tells its events and makes its requests after it.
-/
namespace RegionAudit

structure Run (α : Type) where
  result : α
  events : List Event
  requests : List Request

namespace Run

variable {α β : Type}

protected def pure (a : α) : Run α :=
  ⟨a,[],[]⟩

protected def bind (r : Run α) (f : α → Run β) : Run β :=
  let s := f r.result
  ⟨s.result,r.events ++ s.events,r.requests ++ s.requests⟩

instance : Monad Run where
  pure := Run.pure
  bind := Run.bind

def tell (e : Event) : Run Unit :=
  ⟨(),[e],[]⟩

def send (r : Request) : Run Unit :=
  ⟨(),[],[r]⟩

@[simp] theorem result_pure (a : α) : (pure a : Run α).result = a := rfl

@[simp] theorem events_pure (a : α) : (pure a : Run α).events = [] := rfl

@[simp] theorem requests_pure (a : α) : (pure a : Run α).requests = [] := rfl

@[simp] theorem result_bind (r : Run α) (f : α → Run β) :
    (r >>= f).result = (f r.result).result := rfl

@[simp] theorem events_bind (r : Run α) (f : α → Run β) :
    (r >>= f).events = r.events ++ (f r.result).events := rfl

@[simp] theorem requests_bind (r : Run α) (f : α → Run β) :
    (r >>= f).requests = r.requests ++ (f r.result).requests := rfl

@[simp] theorem result_map (f : α → β) (r : Run α) : (f <$> r).result = f r.result := rfl

@[simp] theorem events_map (f : α → β) (r : Run α) : (f <$> r).events = r.events :=
  List.append_nil r.events

@[simp] theorem requests_map (f : α → β) (r : Run α) : (f <$> r).requests = r.requests :=
  List.append_nil r.requests

@[simp] theorem result_tell (e : Event) : (tell e).result = () := rfl

@[simp] theorem events_tell (e : Event) : (tell e).events = [e] := rfl

@[simp] theorem requests_tell (e : Event) : (tell e).requests = [] := rfl

@[simp] theorem result_send (r : Request) : (send r).result = () := rfl

@[simp] theorem events_send (r : Request) : (send r).events = [] := rfl

@[simp] theorem requests_send (r : Request) : (send r).requests = [r] := rfl

/-- Runs something for each item, and keeps the results in the order of the items. -/
def each (f : α → Run β) : List α → Run (List β)
  | [] => pure []
  | a :: as => do
    let b ← f a
    let bs ← each f as
    return b :: bs

@[simp] theorem result_each (f : α → Run β) (as : List α) :
    (each f as).result = as.map fun a => (f a).result := by
  induction as with
  | nil => rfl
  | cons a as ih => simp [each,ih]

@[simp] theorem events_each (f : α → Run β) (as : List α) :
    (each f as).events = as.flatMap fun a => (f a).events := by
  induction as with
  | nil => rfl
  | cons a as ih => simp [each,ih]

@[simp] theorem requests_each (f : α → Run β) (as : List α) :
    (each f as).requests = as.flatMap fun a => (f a).requests := by
  induction as with
  | nil => rfl
  | cons a as ih => simp [each,ih]

end Run

end RegionAudit
