import TypedSettings.Event

/-!
# Outcomes

An operation on a state answers something, leaves a state behind and reports events.
-/

namespace TypedSettings
set_option autoImplicit false

/-- What an operation answers, leaves behind and reports. -/
structure Outcome (σ α : Type) where
  reply : α
  state : σ
  events : List Event

namespace Outcome

variable {σ τ α β : Type}

/-- An answer that changes and reports nothing. -/
def answer (reply : α) (state : σ) : Outcome σ α := ⟨reply, state, []⟩

/-- The same outcome with another answer. -/
def mapReply (f : α → β) (o : Outcome σ α) : Outcome σ β := ⟨f o.reply, o.state, o.events⟩

/-- The same outcome with the state in another place. -/
def mapState (f : σ → τ) (o : Outcome σ α) : Outcome τ α := ⟨o.reply, f o.state, o.events⟩

@[simp] theorem reply_answer (a : α) (s : σ) : (answer a s).reply = a := rfl

@[simp] theorem state_answer (a : α) (s : σ) : (answer a s).state = s := rfl

@[simp] theorem events_answer (a : α) (s : σ) : (answer a s).events = [] := rfl

@[simp] theorem reply_mapReply (f : α → β) (o : Outcome σ α) : (o.mapReply f).reply = f o.reply := rfl

@[simp] theorem state_mapReply (f : α → β) (o : Outcome σ α) : (o.mapReply f).state = o.state := rfl

@[simp] theorem events_mapReply (f : α → β) (o : Outcome σ α) :
    (o.mapReply f).events = o.events := rfl

@[simp] theorem reply_mapState (f : σ → τ) (o : Outcome σ α) : (o.mapState f).reply = o.reply := rfl

@[simp] theorem state_mapState (f : σ → τ) (o : Outcome σ α) :
    (o.mapState f).state = f o.state := rfl

@[simp] theorem events_mapState (f : σ → τ) (o : Outcome σ α) :
    (o.mapState f).events = o.events := rfl

end Outcome

end TypedSettings
