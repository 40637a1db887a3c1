import Admission.Listener.Connection

/-!
Contract: the life of a connection that is not closed yet.

Owns: `Unclosed`, what closing at once makes of such a connection, and that a new connection is one
unless it is closed already. The factories of its chain may have closed it in a way that lets it wait
for pending data.
-/

namespace Admission.Listener.Connection

open Admission.Chain

/-- A connection is not closed, and no closing has taken effect unless it waits for pending data. -/
structure Unclosed (connection : Connection) : Prop where
  lasting : connection.state ≠ .closed
  never : connection.state = .live → connection.closes = []

variable {connection : Connection}

theorem close_noFlush_state (connection : Connection) :
    (connection.close .noFlush).state = .closed := by
  unfold close
  cases connection.carrier with
  | recorded => rfl
  | tcp =>
      dsimp only
      split
      · assumption
      · rfl

/-- Closing at once takes effect exactly once. -/
theorem Unclosed.close_noFlush (unclosed : connection.Unclosed) :
    (connection.close .noFlush).closes = connection.closes ++ [.noFlush] := by
  unfold close
  rw [if_neg unclosed.lasting]
  cases connection.carrier with
  | recorded => rfl
  | tcp => rfl

theorem Unclosed.destroy (unclosed : connection.Unclosed) : connection.destroy.Unclosed :=
  ⟨unclosed.lasting, unclosed.never⟩

/-! ## New connections -/

@[simp]
theorem close_id (connection : Connection) (kind : CloseType) :
    (connection.close kind).id = connection.id := by
  unfold close
  split
  · rfl
  · rfl
  · split <;> rfl

@[simp]
theorem apply_id (connection : Connection) (factory : NetworkFilterFactory) :
    (connection.apply factory).id = connection.id := by
  unfold apply
  split
  · rfl
  · rfl
  · exact close_id connection _

private theorem factories_id (connection : Connection) (factories : List NetworkFilterFactory) :
    (factories.foldl apply connection).id = connection.id := by
  induction factories generalizing connection with
  | nil => rfl
  | cons factory rest inductionHypothesis =>
      rw [List.foldl_cons, inductionHypothesis, apply_id]

@[simp]
theorem installFilters_id (connection : Connection) (factories : List NetworkFilterFactory) :
    (connection.installFilters factories).1.id = connection.id := by
  unfold installFilters startReadFilters
  split
  · exact factories_id connection factories
  · exact factories_id connection factories
  · split
    · exact factories_id connection factories
    · exact factories_id connection factories

/-- A connection that is closed is closed then, or waits. -/
theorem closed_or_unclosed_close (connection : Connection) (kind : CloseType) :
    (connection.close kind).state = .closed ∨ (connection.close kind).Unclosed := by
  cases kind with
  | noFlush => exact .inl connection.close_noFlush_state
  | flushWrite =>
      cases carried : connection.carrier with
      | recorded =>
          have waits : (connection.close .flushWrite).state = .closing := by simp [close, carried]
          exact .inr ⟨by simp [waits], by simp [waits]⟩
      | tcp =>
          left
          simp only [close, carried]
          split
          · assumption
          · rfl

/-- A factory closes a connection or leaves its life alone. -/
theorem closed_or_unclosed_apply (factory : NetworkFilterFactory)
    (before : connection.state = .closed ∨ connection.Unclosed) :
    (connection.apply factory).state = .closed ∨ (connection.apply factory).Unclosed := by
  unfold apply
  cases factory.action with
  | closeWith kind => exact connection.closed_or_unclosed_close kind
  | nothing => exact before
  | install filter =>
      rcases before with closed | unclosed
      · exact .inl closed
      · exact .inr ⟨unclosed.lasting, unclosed.never⟩

private theorem closed_or_unclosed_factories (factories : List NetworkFilterFactory)
    (before : connection.state = .closed ∨ connection.Unclosed) :
    (factories.foldl apply connection).state = .closed ∨
      (factories.foldl apply connection).Unclosed := by
  induction factories generalizing connection with
  | nil => exact before
  | cons factory rest inductionHypothesis =>
      exact inductionHypothesis (closed_or_unclosed_apply factory before)

private theorem startReadFilters_life (connection : Connection) :
    connection.startReadFilters.1.state = connection.state ∧
      connection.startReadFilters.1.closes = connection.closes := by
  unfold startReadFilters
  split
  · exact ⟨rfl, rfl⟩
  · exact ⟨rfl, rfl⟩
  · split <;> exact ⟨rfl, rfl⟩

theorem closed_or_unclosed_installFilters (factories : List NetworkFilterFactory)
    (before : connection.state = .closed ∨ connection.Unclosed) :
    (connection.installFilters factories).1.state = .closed ∨
      (connection.installFilters factories).1.Unclosed := by
  unfold installFilters
  obtain ⟨state, closes⟩ := (factories.foldl apply connection).startReadFilters_life
  rcases closed_or_unclosed_factories factories before with closed | unclosed
  · exact .inl (state.trans closed)
  · refine .inr ⟨?_, ?_⟩
    · rw [state]
      exact unclosed.lasting
    · rw [state, closes]
      exact unclosed.never

-- A connection whose factory closes it with a flush waits, and is served like a live one.
example (socket : Socket) :
    let installed := (ofSocket 1 .recorded socket "raw").installFilters
      [⟨"echo", .install ⟨"echo", .passive⟩⟩, ⟨"late", .closeWith .flushWrite⟩]
    installed.1.state = .closing ∧ installed.2 = true :=
  ⟨rfl, rfl⟩

theorem closed_or_unclosed_ofSocket (id : Nat) (carrier : Carrier) (socket : Socket)
    (transportProtocol : String) :
    (ofSocket id carrier socket transportProtocol).state = .closed ∨
      (ofSocket id carrier socket transportProtocol).Unclosed := by
  by_cases lost : carrier = .tcp ∧ socket.stream = none
  · exact .inl (if_pos lost)
  · refine .inr ⟨?_, fun _ => rfl⟩
    rw [show (ofSocket id carrier socket transportProtocol).state = .live from if_neg lost]
    decide

end Admission.Listener.Connection
