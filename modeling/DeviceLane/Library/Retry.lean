/-
**Requests that are repeated over a link that loses messages.**

A client sends a request, and repeats it where it is told that the message may have been lost. The server
may have acted on it all the same: then what was lost is the answer. Where the server answers a request
that it has acted on before, and its state goes on to meet what the request has brought about, the client
gets an answer, as long as it repeats the request more often than the link loses messages.

Main definitions:

* `Retry.retry` — a call that is repeated after some of its errors.

Main results:

* `Retry.retry_exchange` — **a repeated call is answered**, and has had its effect.
-/

import DeviceLane.Library.Effect
import Mathlib.Data.Nat.Notation

namespace Retry

open Effect

variable {σ ε α : Type}

/-- A call that is repeated so many times where its error is transient. -/
def retry (transient : ε → Bool) (call : Eff σ ε α) : ℕ → Eff σ ε α
  | 0 => call
  | n + 1 => ofRun fun s =>
    match call.exec s with
    | (.error error, s) => if transient error then (retry transient call n).exec s else (.error error, s)
    | (.ok a, s) => (.ok a, s)

/-- What becomes of a request on the link: it is answered, or its sender gets an error, whether or not the
server has acted on it. -/
inductive Exchange (ε : Type)
  | answered
  | lost (served : Bool) (error : ε)

/-- A request over the link; a link of which nothing more is said loses nothing. -/
def exchange (server : Eff σ ε α) : Eff (σ × List (Exchange ε)) ε α :=
  ofRun fun link =>
    match link.2 with
    | [] => ((server.exec link.1).1, ((server.exec link.1).2, []))
    | .answered :: exchanges => ((server.exec link.1).1, ((server.exec link.1).2, exchanges))
    | .lost served error :: exchanges =>
      (.error error, (if served then (server.exec link.1).2 else link.1, exchanges))

/-- The link loses at most `n` messages before the next one that arrives, and at most `limit` in a row
after that; the sender gets a transient error each time. -/
def Tolerable (transient : ε → Bool) (limit : ℕ) : ℕ → List (Exchange ε) → Prop
  | _, [] => True
  | _, .answered :: exchanges => Tolerable transient limit limit exchanges
  | 0, .lost _ _ :: _ => False
  | n + 1, .lost _ error :: exchanges => transient error = true ∧ Tolerable transient limit n exchanges

def Arrives (exchanges : List (Exchange ε)) : Prop :=
  exchanges = [] ∨ ∃ later, exchanges = .answered :: later

theorem arrives_or_lost (exchanges : List (Exchange ε)) :
    Arrives exchanges ∨ ∃ served error later, exchanges = .lost served error :: later := by
  cases exchanges with
  | nil => exact .inl (.inl rfl)
  | cons first later =>
    cases first with
    | answered => exact .inl (.inr ⟨later, rfl⟩)
    | lost served error => exact .inr ⟨served, error, later, rfl⟩

variable {transient : ε → Bool} {server : Eff σ ε α} {limit : ℕ}

theorem exec_exchange_answered {s s' : σ} {a : α} {exchanges : List (Exchange ε)}
    (hserver : server.exec s = (.ok a, s'))
    (hlink : Arrives exchanges) :
    (exchange server).exec (s, exchanges) = (.ok a, (s', exchanges.tail)) := by
  rcases hlink with rfl | ⟨later, rfl⟩
  · simp only [exchange, exec_ofRun, hserver, List.tail_nil]
  · simp only [exchange, exec_ofRun, hserver, List.tail_cons]

theorem exec_retry_ok {call : Eff σ ε α} {s s' : σ} {a : α} (h : call.exec s = (.ok a, s')) (n : ℕ) :
    (retry transient call n).exec s = (.ok a, s') := by
  cases n with
  | zero => exact h
  | succ => simp only [retry, exec_ofRun, h]

theorem exec_retry_error {call : Eff σ ε α} {s s' : σ} {error : ε} (h : call.exec s = (.error error, s'))
    (htransient : transient error = true) (n : ℕ) :
    (retry transient call (n + 1)).exec s = (retry transient call n).exec s' := by
  simp only [retry, exec_ofRun, h, htransient, if_true]

theorem Tolerable.tail {n : ℕ} {exchanges : List (Exchange ε)} (h : Tolerable transient limit n exchanges)
    (hlink : Arrives exchanges) : Tolerable transient limit limit exchanges.tail := by
  rcases hlink with rfl | ⟨later, rfl⟩
  · cases limit <;> trivial
  · cases n <;> exact h

/-- **A repeated call is answered**, and what it brings about holds afterwards, if the server answers it
whether or not it has acted on it before. -/
theorem retry_exchange {I J : σ → Prop} {R : α → Prop}
    (hserver : ∀ s, I s → ∃ a s', server.exec s = (.ok a, s') ∧ R a ∧ J s')
    (hagain : ∀ s, J s → I s) {n : ℕ} {s : σ} {exchanges : List (Exchange ε)} (hI : I s)
    (h : Tolerable transient limit n exchanges) :
    ∃ a s' later, (retry transient (exchange server) n).exec (s, exchanges) = (.ok a, (s', later)) ∧
      R a ∧ J s' ∧ Tolerable transient limit limit later := by
  -- The induction is on how often the call may still be repeated.
  induction n generalizing s exchanges with
  | zero =>
    obtain ⟨a, s', hanswer, hR, hJ⟩ := hserver s hI
    rcases arrives_or_lost exchanges with harrives | ⟨served, error, later, rfl⟩
    · exact ⟨a, s', _, exec_retry_ok (exec_exchange_answered hanswer harrives) _, hR, hJ, h.tail harrives⟩
    · exact h.elim
  | succ n ih =>
    obtain ⟨a, s', hanswer, hR, hJ⟩ := hserver s hI
    rcases arrives_or_lost exchanges with harrives | ⟨served, error, later, rfl⟩
    · exact ⟨a, s', _, exec_retry_ok (exec_exchange_answered hanswer harrives) _, hR, hJ, h.tail harrives⟩
    · obtain ⟨htransient, hlater⟩ := h
      have hlost : (exchange server).exec (s, .lost served error :: later) =
          (.error error, (if served then s' else s, later)) := by
        simp only [exchange, exec_ofRun, hanswer]
      rw [exec_retry_error hlost htransient]
      refine ih ?_ hlater
      cases served with
      | true => exact hagain s' hJ
      | false => exact hI

end Retry
