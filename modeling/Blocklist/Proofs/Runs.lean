import Blocklist.Blocker

/-!
# Running operations

Operations of the blocker are programs that may fail, over the state of the blocker and over the
state `σ` of its services. What a program does is followed step by step: if the first part ends with
a value, the rest goes on from there; if it ends with an error, so does the whole.

* `bind_apply`                        programs over one state;
* `run_bind_ok`, `run_bind_error`     programs that may fail;
* `Action.on_bind_ok`, `Action.on_bind_error`, …   operations of the blocker, from a blocker and a
                                      state of its services.
-/

namespace Blocklist

section
variable {σ α β ε : Type}

theorem bind_apply (x : StateM σ α) (f : α → StateM σ β) (w : σ) :
    (x >>= f) w = f (x w).1 (x w).2 := rfl

variable {x : ExceptT ε (StateM σ) α} {f : α → ExceptT ε (StateM σ) β} {w w' : σ}

theorem run_bind_ok {a : α} (h : x.run w = (.ok a, w')) : (x >>= f).run w = (f a).run w' := by
  rw [ExceptT.run_bind, bind_apply, h]

theorem run_bind_error {e : ε} (h : x.run w = (.error e, w')) :
    (x >>= f).run w = (.error e, w') := by
  rw [ExceptT.run_bind, bind_apply, h]
  rfl

end

namespace Blocker.Action

variable {σ α β ε : Type} {b b' : Blocker} {w w' : σ}

section
variable {x : Action (StateM σ) α} {f : α → Action (StateM σ) β}

theorem on_bind (x : Action (StateM σ) α) (f : α → Action (StateM σ) β) (b : Blocker) (w : σ) :
    (x >>= f).on b w =
      match x.on b w with
      | ((.ok a, b), w) => (f a).on b w
      | ((.error e, b), w) => ((.error e, b), w) := by
  unfold on
  rw [ExceptT.run_bind, StateT.run_bind, bind_apply]
  rcases x.run.run b w with ⟨⟨e | a, b'⟩, w'⟩ <;> rfl

theorem on_bind_ok {a : α} (h : x.on b w = ((.ok a, b'), w')) :
    (x >>= f).on b w = (f a).on b' w' := by
  rw [on_bind, h]

theorem on_bind_error {e : SyncError} (h : x.on b w = ((.error e, b'), w')) :
    (x >>= f).on b w = ((.error e, b'), w') := by
  rw [on_bind, h]

end

theorem on_pure (a : α) (b : Blocker) (w : σ) :
    (pure a : Action (StateM σ) α).on b w = ((.ok a, b), w) := rfl

theorem on_throw (e : SyncError) (b : Blocker) (w : σ) :
    (throw e : Action (StateM σ) α).on b w = ((.error e, b), w) := rfl

theorem on_get (b : Blocker) (w : σ) :
    (get : Action (StateM σ) Blocker).on b w = ((.ok b, b), w) := rfl

theorem on_modify (g : Blocker → Blocker) (b : Blocker) (w : σ) :
    (modify g : Action (StateM σ) Unit).on b w = ((.ok (), g b), w) := rfl

theorem on_perform {x : StateM σ α} {a : α} (h : x w = (a, w')) (b : Blocker) :
    (perform x).on b w = ((.ok a, b), w') := by
  have hon : (perform x).on b w = ((.ok (x w).1, b), (x w).2) := rfl
  rw [hon, h]

theorem on_call_ok {cause : ε → SyncError} {x : StateM σ (Except ε α)} {a : α}
    (h : x w = (.ok a, w')) (b : Blocker) : (call cause x).on b w = ((.ok a, b), w') := by
  rw [call, on_bind_ok (on_perform h b)]
  rfl

theorem on_call_error {cause : ε → SyncError} {x : StateM σ (Except ε α)} {e : ε}
    (h : x w = (.error e, w')) (b : Blocker) :
    (call cause x).on b w = ((.error (cause e), b), w') := by
  rw [call, on_bind_ok (on_perform h b)]
  rfl

section
variable {x : Action (StateM σ) α} {handle : SyncError → Action (StateM σ) α}

theorem on_tryCatch (x : Action (StateM σ) α) (handle : SyncError → Action (StateM σ) α)
    (b : Blocker) (w : σ) :
    (tryCatch x handle).on b w =
      match x.on b w with
      | ((.ok a, b), w) => ((.ok a, b), w)
      | ((.error e, b), w) => (handle e).on b w := by
  unfold on
  rw [ExceptT.run_tryCatch, StateT.run_bind, bind_apply]
  rcases x.run.run b w with ⟨⟨e | a, b'⟩, w'⟩ <;> rfl

theorem on_tryCatch_ok {a : α} (h : x.on b w = ((.ok a, b'), w')) :
    (tryCatch x handle).on b w = ((.ok a, b'), w') := by
  rw [on_tryCatch, h]

theorem on_tryCatch_error {e : SyncError} (h : x.on b w = ((.error e, b'), w')) :
    (tryCatch x handle).on b w = (handle e).on b' w' := by
  rw [on_tryCatch, h]

end

theorem on_coordinate {f : Coordinator → StateM σ (Except SyncError α × Coordinator)}
    {answer : Except SyncError α} {c : Coordinator} (h : f b.coordinator w = ((answer, c), w')) :
    (coordinate f).on b w = ((answer, { b with coordinator := c }), w') := by
  rw [coordinate, on_bind_ok (on_get b w), on_bind_ok (on_perform h b),
    on_bind_ok (on_modify _ b w')]
  cases answer <;> rfl

end Blocker.Action

end Blocklist
