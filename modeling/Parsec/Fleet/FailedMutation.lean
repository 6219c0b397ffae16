import Parsec.Fleet.Soundness

/-! # Failed key mutations

`mutateKeys` over an arbitrary store: every pass applies the mutation to the ring in memory
before it is saved, and a failed save or reload returns without taking it back. -/

namespace Parsec.Fleet

open Foundation Auth

inductive SaveReply
  | saved
  | conflict
  | failed (message : String)
  deriving DecidableEq

/-- One pass of the loop: the material drawn and what the store answers to `Save` and, after
a conflict, to `Load`. -/
structure Attempt where
  draw : Draw
  save : SaveReply
  load : Except String KeyRing

/-- The ring in memory. The one that was last loaded from the store is kept for the
statements only. -/
structure Keys where
  ring : KeyRing
  loaded : KeyRing
  deriving DecidableEq

/-- `persistKeyRing`: nothing happens without a store. -/
def Attempt.persist (configured : Bool) (attempt : Attempt) : SaveReply :=
  if configured then attempt.save else .saved

def Attempt.reload (codec : Codec) (attempt : Attempt) : Except String KeyRing :=
  match attempt.load with
  | .error message => .error (wrap .internal "reload keyring" message)
  | .ok fresh => loadSnapshot codec (fresh.snapshot codec)

def mutateLoop (codec : Codec) (configured : Bool) (mutation : Mutation) :
    List Attempt → Keys → Except String Rotation × Keys
  | [], keys => (.error (wrap .internal "persist keyring" errKeyRingConflict), keys)
  | attempt :: rest, keys =>
    match mutation.apply attempt.draw keys.ring with
    | (.error message, ring) => (.error message, { keys with ring := ring })
    | (.ok rotation, ring) =>
      match attempt.persist configured with
      | .saved => (.ok rotation, { keys with ring := ring })
      | .failed message =>
        (.error (wrap .internal "persist keyring" message), { keys with ring := ring })
      | .conflict =>
        match attempt.reload codec with
        | .error message => (.error (Node.reloadError message), { keys with ring := ring })
        | .ok next => mutateLoop codec configured mutation rest ⟨next, next⟩

def mutateKeys (codec : Codec) (configured : Bool) (mutation : Mutation)
    (attempts : Fin maxKeyMutationAttempts → Attempt) (keys : Keys) :
    Except String Rotation × Keys :=
  mutateLoop codec configured mutation (List.ofFn attempts) keys

def KeepsOnError (before : Keys) (outcome : Except String Rotation × Keys) : Prop :=
  ∀ message, outcome.1 = .error message →
    outcome.2.ring = before.ring ∨ outcome.2.ring = outcome.2.loaded

def Attempt.Breaks (codec : Codec) (attempt : Attempt) : Prop :=
  (∃ message, attempt.save = .failed message) ∨
    attempt.save = .conflict ∧ ∃ message, attempt.reload codec = .error message

inductive Reaches (codec : Codec) (mutation : Mutation) : List Attempt → Keys → Keys → Prop
  | start (keys : Keys) : Reaches codec mutation [] keys keys
  | retry {attempt rest keys final rotation ring next} :
      mutation.apply attempt.draw keys.ring = (.ok rotation, ring) →
      attempt.save = .conflict → attempt.reload codec = .ok next →
      Reaches codec mutation rest ⟨next, next⟩ final →
      Reaches codec mutation (attempt :: rest) keys final

def Contained (codec : Codec) (mutation : Mutation) (attempts : List Attempt)
    (before keys : Keys) : Prop :=
  ∀ earlier attempt later reached rotation ring, attempts = earlier ++ attempt :: later →
    Reaches codec mutation earlier keys reached → attempt.Breaks codec →
    mutation.apply attempt.draw reached.ring = (.ok rotation, ring) →
      ring = before.ring ∨ ring = reached.loaded

variable {codec : Codec} {mutation : Mutation} {attempt : Attempt} {rest : List Attempt}
  {before keys : Keys}
  {next : KeyRing}

theorem Attempt.not_breaks_of_reload (conflict : attempt.save = .conflict)
    (reloaded : attempt.reload codec = .ok next) : ¬ attempt.Breaks codec := by
  rintro (⟨message, failed⟩ | ⟨_, message, failed⟩)
  · rw [conflict] at failed
    cases failed
  · rw [reloaded] at failed
    cases failed

private theorem contained_nil : Contained codec mutation [] before keys := by
  intro earlier attempt later reached rotation ring split
  simp at split

variable {ring : KeyRing} {rotation : Rotation}

theorem contained_of_breaks (breaks : attempt.Breaks codec)
    (applied : mutation.apply attempt.draw keys.ring = (.ok rotation, ring)) :
    Contained codec mutation (attempt :: rest) before keys ↔
      ring = before.ring ∨ ring = keys.loaded := by
  constructor
  · intro contained
    exact contained [] attempt rest keys rotation ring rfl (.start keys) breaks applied
  · intro harmless earlier other later reached otherRotation otherRing split reaches otherBreaks
      otherApplied
    cases reaches with
    | start =>
      cases split
      rw [applied] at otherApplied
      cases otherApplied
      exact harmless
    | retry _ conflict reloaded _ =>
      cases split
      exact absurd breaks (Attempt.not_breaks_of_reload conflict reloaded)

theorem contained_of_retry (applied : mutation.apply attempt.draw keys.ring = (.ok rotation, ring))
    (conflict : attempt.save = .conflict) (reloaded : attempt.reload codec = .ok next) :
    Contained codec mutation (attempt :: rest) before keys ↔
      Contained codec mutation rest before ⟨next, next⟩ := by
  constructor
  · intro contained earlier other later reached otherRotation otherRing split reaches
    exact contained (attempt :: earlier) other later reached otherRotation otherRing
      (by rw [split, List.cons_append]) (.retry applied conflict reloaded reaches)
  · intro contained earlier other later reached otherRotation otherRing split reaches breaks
    cases reaches with
    | start =>
      cases split
      exact absurd breaks (Attempt.not_breaks_of_reload conflict reloaded)
    | retry _ _ again reaches =>
      cases split
      rw [reloaded] at again
      cases again
      exact contained _ other later reached otherRotation otherRing rfl reaches breaks

private theorem contained_of_settled
    (settled : (∃ message ring, mutation.apply attempt.draw keys.ring = (.error message, ring)) ∨
      attempt.save = .saved) : Contained codec mutation (attempt :: rest) before keys := by
  have stuck : ∀ {rotation ring}, mutation.apply attempt.draw keys.ring = (.ok rotation, ring) →
      attempt.save = .saved := by
    intro rotation ring applied
    rcases settled with ⟨message, other, refused⟩ | saved
    · rw [applied] at refused
      cases refused
    · exact saved
  intro earlier other later reached rotation ring split reaches breaks applied
  cases reaches with
  | start =>
    cases split
    have saved := stuck applied
    rcases breaks with ⟨message, failed⟩ | ⟨conflict, _⟩
    · rw [saved] at failed
      cases failed
    · rw [saved] at conflict
      cases conflict
  | retry first conflict =>
    cases split
    rw [stuck first] at conflict
    cases conflict

private theorem mutateLoop_keeps_iff (attempts : List Attempt) :
    ∀ {keys : Keys}, (keys.ring = before.ring ∨ keys.ring = keys.loaded) →
      (KeepsOnError before (mutateLoop codec true mutation attempts keys) ↔
        Contained codec mutation attempts before keys) := by
  induction attempts with
  | nil =>
    intro keys known
    exact ⟨fun _ => contained_nil, fun _ _ _ => known⟩
  | cons attempt rest induction =>
    intro keys known
    cases applied : mutation.apply attempt.draw keys.ring with
    | mk outcome ring =>
      cases outcome with
      | error message =>
        have unchanged := Mutation.eq_of_error applied
        subst unchanged
        simp only [mutateLoop, applied]
        exact ⟨fun _ => contained_of_settled (.inl ⟨message, keys.ring, applied⟩),
          fun _ _ _ => known⟩
      | ok rotation =>
        cases saved : attempt.save with
        | saved =>
          simp only [mutateLoop, applied, Attempt.persist, saved, if_true]
          exact ⟨fun _ => contained_of_settled (.inr saved),
            fun _ message failed => by cases failed⟩
        | failed message =>
          simp only [mutateLoop, applied, Attempt.persist, saved, if_true]
          rw [contained_of_breaks (.inl ⟨message, saved⟩) applied]
          exact ⟨fun keeps => keeps _ rfl, fun harmless _ _ => harmless⟩
        | conflict =>
          cases reloaded : attempt.reload codec with
          | error message =>
            simp only [mutateLoop, applied, Attempt.persist, saved, if_true, reloaded]
            rw [contained_of_breaks (.inr ⟨saved, message, reloaded⟩) applied]
            exact ⟨fun keeps => keeps _ rfl, fun harmless _ _ => harmless⟩
          | ok next =>
            simp only [mutateLoop, applied, Attempt.persist, saved, if_true, reloaded]
            rw [contained_of_retry applied saved reloaded]
            exact induction (.inr rfl)

theorem mutateLoop_unconfigured {attempt : Attempt} {rest : List Attempt} :
    KeepsOnError keys (mutateLoop codec false mutation (attempt :: rest) keys) := by
  intro message failed
  cases applied : mutation.apply attempt.draw keys.ring with
  | mk outcome ring =>
    cases outcome with
    | error text =>
      have unchanged := Mutation.eq_of_error applied
      subst unchanged
      simp only [mutateLoop, applied]
      exact .inl trivial
    | ok rotation => simp [mutateLoop, applied, Attempt.persist] at failed

/-- A failed key operation leaves the ring from before the call or the one last loaded
exactly when, at every pass the call reaches, a store that fails to save or to reload meets
a mutation that gave back one of these rings. -/
theorem failed_mutation_keeps_ring_iff (codec : Codec) (configured : Bool) (mutation : Mutation)
    (attempts : Fin maxKeyMutationAttempts → Attempt) (keys : Keys) :
    KeepsOnError keys (mutateKeys codec configured mutation attempts keys) ↔
      (configured = true → Contained codec mutation (List.ofFn attempts) keys keys) := by
  cases configured with
  | true =>
    rw [mutateKeys, mutateLoop_keeps_iff _ (.inl rfl)]
    simp
  | false =>
    refine ⟨fun _ impossible => absurd impossible (by decide), fun _ => ?_⟩
    exact mutateLoop_unconfigured

def standbyRing : KeyRing :=
  KeyRing.empty.performAll
    [(.add "first" (List.replicate 32 1), 0), (.add "second" (List.replicate 32 2), 0)]

def unreachable : Attempt where
  draw := .epoch 1
  save := .failed "save keyring: dial tcp: connection refused"
  load := .error "redis Get keyring version: dial tcp: connection refused"

/-- The promotion of the second key fails, and the node signs with that key from then on. -/
theorem failed_promotion_stays :
    let keys : Keys := ⟨standbyRing, standbyRing⟩
    let outcome := mutateKeys Codec.epoch true (.promote "second") (fun _ => unreachable) keys
    outcome.1 = .error ("PARSEC_INTERNAL: persist keyring: " ++
        "save keyring: dial tcp: connection refused") ∧
      standbyRing.active = "first" ∧ outcome.2.ring.active = "second" ∧
      ¬ KeepsOnError keys outcome := by
  intro keys outcome
  have failed : outcome.1 = .error ("PARSEC_INTERNAL: persist keyring: " ++
      "save keyring: dial tcp: connection refused") := by decide +kernel
  have before : standbyRing.active = "first" := by decide +kernel
  have after : outcome.2.ring.active = "second" := by decide +kernel
  have loaded : outcome.2.loaded = standbyRing := by decide +kernel
  refine ⟨failed, before, after, ?_⟩
  intro keeps
  have kept : outcome.2.ring = standbyRing := by
    rcases keeps _ failed with same | same
    · exact same
    · exact same.trans loaded
  rw [kept, before] at after
  exact absurd after (by decide)

end Parsec.Fleet
