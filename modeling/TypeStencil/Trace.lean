import TypeStencil.Fault

/-!
Computations that leave a trace: what they log, which templates they have rendered and what they
fetch, in order, up to the point where they fail or end.
-/
namespace TypeStencil

inductive LogLevel where
  | debug
  | info
  | warning
  | error
  | critical
  deriving DecidableEq, Repr

namespace LogLevel

def label : LogLevel → String
  | debug => "DEBUG"
  | info => "INFO"
  | warning => "WARNING"
  | error => "ERROR"
  | critical => "CRITICAL"

def number : LogLevel → Nat
  | debug => 10
  | info => 20
  | warning => 30
  | error => 40
  | critical => 50

end LogLevel

structure LogRecord where
  level : LogLevel
  message : String
  deriving DecidableEq, Repr

/-- The named values that a template is rendered with. -/
abbrev Context := List (String × Value)

inductive Event where
  | logged (record : LogRecord)
  | rendered (template : Value) (context : Context)
  | fetched (url : String) (timeout : Value)

structure Traced (α : Type) where
  events : List Event
  result : Except Fault α

namespace Traced

variable {α β : Type}

def bind (m : Traced α) (f : α → Traced β) : Traced β :=
  match m.result with
  | .error e => ⟨m.events, .error e⟩
  | .ok a => ⟨m.events ++ (f a).events, (f a).result⟩

instance : Monad Traced where
  pure a := ⟨[], .ok a⟩
  bind := bind

def fail (f : Fault) : Traced α :=
  ⟨[], .error f⟩

def of (r : Except Fault α) : Traced α :=
  ⟨[], r⟩

def ofType (r : Except TypeFault α) : Traced α :=
  ⟨[], r.mapError .type⟩

def log (level : LogLevel) (message : String) : Traced Unit :=
  ⟨[.logged ⟨level, message⟩], .ok ()⟩

def event (e : Event) : Traced Unit :=
  ⟨[e], .ok ()⟩

/-- Rewords the fault of a computation. -/
def mapFault (f : Fault → Fault) (m : Traced α) : Traced α :=
  ⟨m.events, m.result.mapError f⟩

def logs (m : Traced α) : List LogRecord :=
  m.events.filterMap fun e => match e with
    | .logged record => some record
    | _ => none

/-- The template calls of a computation. -/
def calls (m : Traced α) : List (Value × Context) :=
  m.events.filterMap fun e => match e with
    | .rendered template context => some (template, context)
    | _ => none

def fetches (m : Traced α) : List (String × Value) :=
  m.events.filterMap fun e => match e with
    | .fetched url timeout => some (url, timeout)
    | _ => none

@[simp] theorem bind_ok (events : List Event) (a : α) (f : α → Traced β) :
    (⟨events, .ok a⟩ : Traced α) >>= f = ⟨events ++ (f a).events, (f a).result⟩ := rfl

@[simp] theorem bind_error (events : List Event) (e : Fault) (f : α → Traced β) :
    (⟨events, .error e⟩ : Traced α) >>= f = ⟨events, .error e⟩ := rfl

instance : LawfulMonad Traced :=
  .mk' Traced
    (by
      intro α m
      cases m with | mk events r => cases r <;> simp [Functor.map, bind])
    (by intro α β a f; simp [pure, Bind.bind, bind])
    (by
      intro α β γ m f g
      cases m with
      | mk events r =>
        cases r with
        | error e => rfl
        | ok a =>
          simp only [bind_ok]
          cases f a with
          | mk more s => cases s <;> simp [Bind.bind, bind])

end Traced

/-- A traced computation on a state. Where it fails, the state is what it had become by then. -/
def Change (σ α : Type) : Type :=
  σ → σ × Traced α

namespace Change

variable {σ α β : Type}

def bind (c : Change σ α) (f : α → Change σ β) : Change σ β := fun s =>
  let (s, m) := c s
  match m.result with
  | .error e => (s, ⟨m.events, .error e⟩)
  | .ok a =>
    let (s, next) := f a s
    (s, ⟨m.events ++ next.events, next.result⟩)

instance : Monad (Change σ) where
  pure a := fun s => (s, pure a)
  bind := bind

/-- A computation that leaves the state alone. -/
def of (m : Traced α) : Change σ α := fun s => (s, m)

def get : Change σ σ := fun s => (s, pure s)

def modify (f : σ → σ) : Change σ Unit := fun s => (f s, pure ())

end Change

end TypeStencil
