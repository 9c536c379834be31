import FleetGate.Manager
import FleetGate.Proofs.Clients

/-!
# What a manager does for a caller

`Manager.derive` looks for the token of a caller, has it reviewed if need be, and builds
the handle for it.  There is an equation for each of its three ways: no token, a token that
need not be reviewed, and a token that is reviewed.

Whichever way it takes, the manager is the same afterwards, but for what its client
remembers (`Manager.derive_sameMake`), and a handle is the gate's own or the one for the
token (`Manager.eq_handle_of_derive`).
-/

namespace FleetGate

open Runs (run bind_of)

namespace Manager

variable {m : Type → Type} [Monad m] {W : Type} [Runs m W] {α : Type}

/-- What is done with the client of a manager leaves the rest of the manager as it is. -/
theorem run_onClient (action : StateT Client m α) (g : Manager) (w : W) :
    run (onClient action) (g, w) =
      ((run action (g.client, w)).1, { g with client := (run action (g.client, w)).2.1 },
        (run action (g.client, w)).2.2) := by
  unfold onClient
  rw [Runs.run_bind, Runs.run_get, Runs.run_bind, Runs.run_monadLift, Runs.run_bind, Runs.run_set,
    Runs.run_pure]
  rfl

variable [Network m]

/-- The review of a token moves the client of the manager on. -/
theorem run_verify (token : String) (audience : Option String) (g : Manager) (w : W) :
    run (verify (m := m) token audience) (g, w) =
      let review := run (TokenReview.verify (m := StateT Client m) Client.send token audience)
        (g.client, w)
      (review.1, { g with client := review.2.1 }, review.2.2) := run_onClient _ g w

variable {g : Manager} {caller : Caller} {token : String} {w : W}

/-! ## The three ways -/

theorem run_derive_of_no_token (h : caller.token? = none) :
    run (derive (m := m) caller) (g, w) =
      (if g.settings.requireOauth then .error .tokenRequired else .ok .own, g, w) := by
  unfold derive
  rw [Runs.run_bind, Runs.run_get, h]
  dsimp only
  rw [Runs.run_pure]

theorem run_derive_of_unreviewed (ht : caller.token? = some token)
    (hv : g.settings.validateToken = false) :
    run (derive (m := m) caller) (g, w) = (g.handleFor token caller.userAgent, g, w) := by
  unfold derive
  rw [Runs.run_bind, Runs.run_get, ht]
  dsimp only
  rw [hv, if_neg Bool.false_ne_true, bind_of (Runs.run_pure _ _)]
  dsimp only
  rw [Runs.run_bind, Runs.run_get, Runs.run_pure]

theorem run_derive_of_reviewed (ht : caller.token? = some token)
    (hv : g.settings.validateToken = true) :
    run (derive (m := m) caller) (g, w) =
      let review := run (verify (m := m) token none) (g, w)
      (review.1.bind fun _ => g.handleFor token caller.userAgent, review.2) := by
  unfold derive
  rw [Runs.run_bind, Runs.run_get, ht]
  dsimp only
  rw [hv, if_pos rfl, Runs.run_bind, run_verify, bind_of (Runs.run_pure _ _)]
  dsimp only
  cases (run (TokenReview.verify (m := StateT Client m) Client.send token none)
    (g.client, w)).1 with
  | error e => exact Runs.run_pure _ _
  | ok identity =>
    dsimp only [Except.map]
    rw [Runs.run_bind, Runs.run_get, Runs.run_pure]
    rfl

/-! ## After a way was taken -/

/-- Deriving a handle changes nothing of a manager but what its client remembers. -/
theorem derive_sameMake (g : Manager) (caller : Caller) (w : W) :
    ∃ c, Client.SameMake g.client c ∧
      (run (derive (m := m) caller) (g, w)).2.1 = { g with client := c } := by
  cases ht : caller.token? with
  | none => exact ⟨g.client, .refl _, by rw [run_derive_of_no_token ht]⟩
  | some token =>
    cases hv : g.settings.validateToken with
    | false => exact ⟨g.client, .refl _, by rw [run_derive_of_unreviewed ht hv]⟩
    | true =>
      have hprogram : Client.Program m _ (TokenReview.verify Client.send token none) :=
        Client.program_closed.verify .send token none
      refine ⟨_, hprogram.keeps g.client w, ?_⟩
      rw [run_derive_of_reviewed ht hv, run_verify]

/-- A handle is the gate's own or the one for the caller's token. -/
theorem eq_handle_of_derive {h : Handle} (hd : (run (derive (m := m) caller) (g, w)).1 = .ok h) :
    (caller.token? = none ∧ h = .own) ∨
      ∃ token, caller.token? = some token ∧ g.handleFor token caller.userAgent = .ok h := by
  cases ht : caller.token? with
  | none =>
    rw [run_derive_of_no_token ht] at hd
    split at hd
    · cases hd
    · cases hd
      exact Or.inl ⟨rfl, rfl⟩
  | some token =>
    refine Or.inr ⟨token, rfl, ?_⟩
    cases hv : g.settings.validateToken with
    | false =>
      rw [run_derive_of_unreviewed ht hv] at hd
      exact hd
    | true =>
      rw [run_derive_of_reviewed ht hv] at hd
      obtain ⟨_, _, hh⟩ := exists_of_bind_eq_ok hd
      exact hh

end Manager

end FleetGate
