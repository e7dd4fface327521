import BuildScan.Host

/-!
# What an action gives and what it leaves

An action is a function of a trace.  `Action.result` is what it gives and `Action.after` the trace
that it leaves; what a sequence of actions gives is told step by step.
-/

namespace BuildScan.Action

variable {σ α β : Type}

/-- What an action gives on a trace. -/
def result (act : Action σ α) (t : Trace σ) : α := (StateT.run act t).1

/-- The trace behind an action. -/
def after (act : Action σ α) (t : Trace σ) : Trace σ := (StateT.run act t).2

@[simp] theorem result_pure (a : α) (t : Trace σ) : result (pure a) t = a := rfl

@[simp] theorem result_bind (act : Action σ α) (f : α → Action σ β) (t : Trace σ) :
    result (act >>= f) t = result (f (result act t)) (after act t) := rfl

@[simp] theorem after_pure (a : α) (t : Trace σ) : after (pure a) t = t := rfl

@[simp] theorem after_bind (act : Action σ α) (f : α → Action σ β) (t : Trace σ) :
    after (act >>= f) t = after (f (result act t)) (after act t) := rfl

@[simp] theorem result_machine (t : Trace σ) : result machine t = t.machine := rfl

@[simp] theorem after_machine (t : Trace σ) : after machine t = t := rfl

@[simp] theorem after_log (level : LogLevel) (message : String) (t : Trace σ) :
    after (log level message) t = { t with log := t.log ++ [⟨level, message⟩] } := rfl

@[simp] theorem result_run (host : Host σ) (command : Command) (t : Trace σ) :
    result (run host command) t = (host.run command t.machine).1 := rfl

@[simp] theorem after_run (host : Host σ) (command : Command) (t : Trace σ) :
    after (run host command) t = { t with machine := (host.run command t.machine).2 } := rfl

end BuildScan.Action
