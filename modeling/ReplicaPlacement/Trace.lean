/-!
# Traces

What an operation reports while it runs. Events never influence an answer, so a traced operation is
its answer together with a list.
-/

namespace ReplicaPlacement

inductive Severity where
  | trace
  | debug
  | info
  | warn
  | error
  deriving DecidableEq, Repr

def Severity.text : Severity → String
  | trace => "TRACE"
  | debug => "DEBUG"
  | info => "INFO"
  | warn => "WARN"
  | error => "ERROR"

/-- One report. Its text is made only when it is read. -/
structure Event where
  severity : Severity
  render : Unit → String

structure Traced (α : Type) where
  value : α
  events : List Event := []

namespace Traced

variable {α β : Type}

instance : Monad Traced where
  pure a := ⟨a, []⟩
  bind x f :=
    let y := f x.value
    ⟨y.value, x.events ++ y.events⟩

def emit (severity : Severity) (render : Unit → String) : Traced Unit := ⟨(), [⟨severity, render⟩]⟩

@[simp] theorem value_pure (a : α) : (pure a : Traced α).value = a := rfl

@[simp] theorem value_bind (x : Traced α) (f : α → Traced β) :
    (x >>= f).value = (f x.value).value := rfl

@[simp] theorem value_emit (s : Severity) (r : Unit → String) : (emit s r).value = () := rfl

end Traced

/-- A traced operation that may fail. Events up to the failure are kept. -/
abbrev Attempt (ε α : Type) := ExceptT ε Traced α

namespace Attempt

variable {ε α β : Type}

def result (x : Attempt ε α) : Except ε α := x.run.value

def events (x : Attempt ε α) : List Event := x.run.events

def emit (severity : Severity) (render : Unit → String) : Attempt ε Unit :=
  ExceptT.lift (Traced.emit severity render)

def debug (render : Unit → String) : Attempt ε Unit := emit .debug render

def trace (render : Unit → String) : Attempt ε Unit := emit .trace render

def info (render : Unit → String) : Attempt ε Unit := emit .info render

def warn (render : Unit → String) : Attempt ε Unit := emit .warn render

def ofExcept (x : Except ε α) : Attempt ε α := ExceptT.mk (pure x)

def ofTraced (x : Traced α) : Attempt ε α := ExceptT.lift x

def mapError {ε' : Type} (f : ε → ε') (x : Attempt ε α) : Attempt ε' α :=
  ExceptT.mk ⟨x.run.value.mapError f, x.run.events⟩

@[simp] theorem result_pure (a : α) : result (pure a : Attempt ε α) = .ok a := rfl

@[simp] theorem result_throw (e : ε) : result (throw e : Attempt ε α) = .error e := rfl

theorem result_bind (x : Attempt ε α) (f : α → Attempt ε β) :
    result (x >>= f) = (result x).bind fun a => result (f a) := by
  obtain ⟨v, es⟩ : Traced (Except ε α) := x
  cases v <;> rfl

@[simp] theorem result_emit (s : Severity) (r : Unit → String) :
    result (emit s r : Attempt ε Unit) = .ok () := rfl

@[simp] theorem result_ofExcept (x : Except ε α) : result (ofExcept x) = x := rfl

@[simp] theorem result_ofTraced (x : Traced α) :
    result (ofTraced x : Attempt ε α) = .ok x.value := rfl

@[simp] theorem result_mapError {ε' : Type} (f : ε → ε') (x : Attempt ε α) :
    result (mapError f x) = (result x).mapError f := rfl

end Attempt

end ReplicaPlacement
