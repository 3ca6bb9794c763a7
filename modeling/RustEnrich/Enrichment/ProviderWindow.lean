import RustEnrich.Storage.FirstObservation

/-!
# A provider window with attempts in flight

The AbuseIPDB key belongs to the service alone, so within a provider window the
allowance falls only by the attempts the service sends. The service learns of it
from replies, which arrive in any order, are retained before the permit of their
attempt is released, and reach the row some time later. This module composes the
storage with the provider and with the attempts that hold permits.
-/

namespace RustEnrich.Enrichment

open Transitions Storage

/-- `unobserved_attempts`: one of the attempts in flight is the one observed. -/
def unobservedAttempts (maxConcurrency : Nat) : Nat := maxConcurrency - 1

/-- An attempt that holds a permit. -/
inductive InFlight
  | reserving (call : CallId)
  /-- Granted, sent, and not yet processed by the provider. -/
  | sent (call : CallId)
  /-- Processed, with the reply on its way. -/
  | processed (call : CallId) (left : Nat)

/-- The attempt is sent and not processed. -/
def InFlight.isSent : InFlight → Bool
  | .sent _ => true
  | _ => false

/-- What the reply to the attempt says is left. -/
def InFlight.reply : InFlight → Option Nat
  | .processed _ left => some left
  | _ => none

/-- The storage, the allowance the provider holds, and the attempts in flight. -/
structure Window where
  storage : World
  allowance : Nat
  inFlight : List InFlight

namespace Window

/-- The attempts granted and not yet processed. -/
def unprocessed (window : Window) : Nat := window.inFlight.countP InFlight.isSent

/-- What the replies on their way report. -/
def replies (window : Window) : List Nat := window.inFlight.filterMap InFlight.reply

/-- The recorded `provider_remaining`. -/
def recordedRemaining (window : Window) : Option Nat :=
  window.storage.database.bind
    (fun database => (database.quotaState .abuseipdbCheck).providerRemaining)

end Window

/-- What is told of a window. -/
inductive WindowEvent
  | storage (event : Event)
  /-- The provider processes an attempt at the allowance it held. -/
  | processed (call : CallId) (allowance : Nat)

/-- An open storage whose clock has not reached the reset. -/
def Before (resetAt : DateTime) : World → Prop
  | .running _ session => session.runtime.highWater < resetAt.timestampMillis
  | .closed _ => False

/-- The storage events that move an attempt. -/
def OfAttempt : Event → Prop
  | .callStarted _ (.reserve .abuseipdb) => True
  | .reserveReturned _ .abuseipdb _ (.ok _) => True
  | .feedbackRetained .abuseipdbCheck _ => True
  | _ => False

/-- What can happen inside a window. -/
inductive WindowStep (codec : PayloadCodec) (maxConcurrency : Nat) (resetAt : DateTime) :
    Window → List WindowEvent → Window → Prop
  | reserving {window : Window} {storage : World} (call : CallId)
      (permits : window.inFlight.length < maxConcurrency)
      (taken : Step codec window.storage [.callStarted call (.reserve .abuseipdb)] storage)
      (before : Before resetAt storage) :
      WindowStep codec maxConcurrency resetAt window
        [.storage (.callStarted call (.reserve .abuseipdb))]
        { window with storage, inFlight := window.inFlight ++ [.reserving call] }
  /-- An attempt denied, failed or dropped while it reserves. -/
  | released {window : Window} {front back : List InFlight} {call : CallId}
      (held : window.inFlight = front ++ .reserving call :: back) :
      WindowStep codec maxConcurrency resetAt window []
        { window with inFlight := front ++ back }
  | granted {window : Window} {storage : World} {front back : List InFlight} {call : CallId}
      {wall : DateTime} (held : window.inFlight = front ++ .reserving call :: back)
      (taken : Step codec window.storage [.reserveReturned call .abuseipdb wall (.ok ())] storage)
      (before : Before resetAt storage) :
      WindowStep codec maxConcurrency resetAt window
        [.storage (.reserveReturned call .abuseipdb wall (.ok ()))]
        { window with storage, inFlight := front ++ .sent call :: back }
  | processed {window : Window} {front back : List InFlight} {call : CallId}
      (held : window.inFlight = front ++ .sent call :: back) :
      WindowStep codec maxConcurrency resetAt window [.processed call window.allowance]
        { window with
          allowance := window.allowance - 1
          inFlight := front ++ .processed call (window.allowance - 1) :: back }
  /-- A reply is retained, and its attempt releases the permit. -/
  | replied {window : Window} {storage : World} {front back : List InFlight}
      {call feedbackCall : CallId} {left : Nat} {feedback : QuotaFeedback}
      (held : window.inFlight = front ++ .processed call left :: back)
      (remaining : feedback.remaining = some left) (reset : feedback.resetAt = some resetAt)
      (taken : Step codec window.storage
        [.callStarted feedbackCall (.feedback .abuseipdb),
          .feedbackRetained .abuseipdbCheck feedback] storage)
      (before : Before resetAt storage) :
      WindowStep codec maxConcurrency resetAt window
        [.storage (.callStarted feedbackCall (.feedback .abuseipdb)),
          .storage (.feedbackRetained .abuseipdbCheck feedback)]
        { window with storage, inFlight := front ++ back }
  /-- Any other step of the storage. -/
  | storage {window : Window} {storage : World} {emitted : List Event}
      (taken : Step codec window.storage emitted storage)
      (other : ∀ event ∈ emitted, ¬ OfAttempt event) (before : Before resetAt storage) :
      WindowStep codec maxConcurrency resetAt window (emitted.map .storage)
        { window with storage }

/-- The window starts with no allowance recorded or retained. Attempts may be
in flight, none of them processed in this window. -/
structure Opens (maxConcurrency : Nat) (resetAt : DateTime) (window : Window)
    (database : Database) (session : Session) : Prop where
  storage : window.storage = .running database session
  limits : (session.settings.limits .abuseipdb).unobservedAttempts =
    unobservedAttempts maxConcurrency
  before : session.runtime.highWater < resetAt.timestampMillis
  unrecorded : (database.quotaState .abuseipdbCheck).providerRemaining = none
  unretained : session.runtime.pending .abuseipdbCheck = none
  unsaved : ∀ entry, session.gate.saving ≠ some (.abuseipdbCheck, entry)
  permits : window.inFlight.length ≤ maxConcurrency
  unprocessed : window.replies = []

/-! ### What holds throughout a window -/

/-- The storage inside the window. -/
structure Inside (maxConcurrency : Nat) (resetAt : DateTime) (database : Database)
    (session : Session) : Prop where
  clocked : (World.running database session).Clocked
  before : session.runtime.highWater < resetAt.timestampMillis
  limits : (session.settings.limits .abuseipdb).unobservedAttempts =
    unobservedAttempts maxConcurrency

/-- The row holds no more than the provider has left for new attempts. -/
def Observed (maxConcurrency : Nat) (resetAt : DateTime) (window : Window) : Prop :=
  ∃ database session, window.storage = .running database session ∧
    Inside maxConcurrency resetAt database session ∧
    Recorded .abuseipdbCheck resetAt.timestampMillis (window.allowance - window.unprocessed)
      database session

/-- Nothing is recorded. While nothing is retained either, a reply reports more
than the provider has left by at most the other replies on their way. -/
def Unobserved (maxConcurrency : Nat) (resetAt : DateTime) (window : Window) : Prop :=
  ∃ database session, window.storage = .running database session ∧
    Inside maxConcurrency resetAt database session ∧
    window.inFlight.length ≤ maxConcurrency ∧
    Unrecorded .abuseipdbCheck resetAt.timestampMillis (window.allowance - window.unprocessed)
      (unobservedAttempts maxConcurrency) database session ∧
    (session.runtime.pending .abuseipdbCheck = none →
      ∀ left ∈ window.replies, left ≤ window.allowance + (window.replies.length - 1))

variable {codec : PayloadCodec} {maxConcurrency : Nat} {resetAt : DateTime}
  {window after : Window} {reached : World} {database next : Database}
  {session following : Session} {emitted : List Event} {events seen : List WindowEvent}

/-- A step before the reset stays inside the window. -/
theorem Inside.step (inside : Inside maxConcurrency resetAt database session)
    (taken : Step codec (.running database session) emitted reached)
    (before : Before resetAt reached) :
    ∃ next following, reached = .running next following ∧
      Inside maxConcurrency resetAt next following ∧
      Move database session emitted next following := by
  obtain ⟨_, rfl⟩ | ⟨next, following, rfl, settings, move⟩ := taken.move
  · exact before.elim
  · exact ⟨next, following, rfl, ⟨taken.clocked inside.clocked, before, settings ▸ inside.limits⟩,
      move⟩

/-! ### An attempt that moves on -/

section Attempts

variable {front back : List InFlight} {attempt : InFlight} {call : CallId}

/-- An attempt that is dropped unsent leaves as many unprocessed. -/
theorem sent_dropped (held : window.inFlight = front ++ attempt :: back)
    (idle : attempt.isSent = false) :
    (front ++ back).countP InFlight.isSent = window.unprocessed := by
  simp [Window.unprocessed, held, idle]

/-- An attempt that is granted is one more unprocessed. -/
theorem sent_granted (held : window.inFlight = front ++ .reserving call :: back) :
    (front ++ InFlight.sent call :: back).countP InFlight.isSent = window.unprocessed + 1 := by
  simp [Window.unprocessed, held, List.countP_cons, InFlight.isSent]
  omega

/-- An attempt that is processed is one less. -/
theorem sent_processed (held : window.inFlight = front ++ .sent call :: back) (left : Nat) :
    (front ++ InFlight.processed call left :: back).countP InFlight.isSent + 1 =
      window.unprocessed := by
  simp [Window.unprocessed, held, List.countP_cons, InFlight.isSent]
  omega

/-- A dropped attempt gives its permit back. -/
theorem permits_dropped (held : window.inFlight = front ++ attempt :: back)
    (permits : window.inFlight.length ≤ maxConcurrency) :
    (front ++ back).length ≤ maxConcurrency := by
  rw [held] at permits
  simp only [List.length_append, List.length_cons] at permits ⊢
  omega

/-- An attempt that moves on keeps its permit. -/
theorem permits_moved (held : window.inFlight = front ++ attempt :: back)
    (permits : window.inFlight.length ≤ maxConcurrency) (moved : InFlight) :
    (front ++ moved :: back).length ≤ maxConcurrency := by
  rw [held] at permits
  simpa only [List.length_append, List.length_cons] using permits

/-- The provider takes one from the allowance, and one more reply is on its way. -/
theorem replies_processed (held : window.inFlight = front ++ .sent call :: back)
    (fits : ∀ left ∈ window.replies, left ≤ window.allowance + (window.replies.length - 1)) :
    ∀ left ∈ (front ++ InFlight.processed call (window.allowance - 1) :: back).filterMap
        InFlight.reply,
      left ≤ window.allowance - 1 +
        (((front ++ InFlight.processed call (window.allowance - 1) :: back).filterMap
          InFlight.reply).length - 1) := by
  intro left member
  simp only [Window.replies, held, List.filterMap_append, List.filterMap_cons,
    InFlight.reply, List.mem_append, List.mem_cons, List.length_append,
    List.length_cons] at fits member ⊢
  rcases member with earlier | rfl | later
  · have within := fits left (Or.inl earlier)
    have one := List.length_pos_of_mem earlier
    omega
  · omega
  · have within := fits left (Or.inr later)
    have one := List.length_pos_of_mem later
    omega

end Attempts

/-! ### Once an allowance is recorded -/

/-- With an allowance recorded, a step of the storage takes its grants from it. -/
theorem Observed.underlying (observed : Observed maxConcurrency resetAt window)
    (taken : Step codec window.storage emitted reached) (before : Before resetAt reached) :
    ∃ next following rest, reached = .running next following ∧
      Inside maxConcurrency resetAt next following ∧
      Recorded .abuseipdbCheck resetAt.timestampMillis rest next following ∧
      rest + countGroup .abuseipdbCheck (granted emitted) ≤
        window.allowance - window.unprocessed := by
  obtain ⟨database, session, open_, inside, recorded⟩ := observed
  rw [open_] at taken
  obtain ⟨next, following, rfl, still, _⟩ := inside.step taken before
  obtain ⟨rest, kept, spent⟩ := recorded.step taken inside.clocked inside.before
  exact ⟨next, following, rest, rfl, still, kept, spent⟩

/-- A storage step that answers no attempt leaves the allowance for new ones. -/
theorem Observed.frame (observed : Observed maxConcurrency resetAt window)
    (taken : Step codec window.storage emitted reached) (before : Before resetAt reached)
    {inFlight : List InFlight}
    (same : inFlight.countP InFlight.isSent = window.unprocessed) :
    Observed maxConcurrency resetAt { window with storage := reached, inFlight } := by
  obtain ⟨next, following, rest, running, inside, recorded, spent⟩ :=
    observed.underlying taken before
  refine ⟨next, following, running, inside, recorded.mono ?_⟩
  change rest ≤ window.allowance - inFlight.countP InFlight.isSent
  omega

/-- What a step leaves of an observed allowance. An answered attempt takes one
the provider still has, and from then on no attempt finds the provider empty. -/
theorem Observed.step (observed : Observed maxConcurrency resetAt window)
    (taken : WindowStep codec maxConcurrency resetAt window events after) :
    Observed maxConcurrency resetAt after ∧
      (∀ call wall, .storage (.reserveReturned call .abuseipdb wall (.ok ())) ∈ events →
        after.unprocessed ≤ after.allowance) ∧
      (window.unprocessed ≤ window.allowance → after.unprocessed ≤ after.allowance ∧
        ∀ call allowance, .processed call allowance ∈ events → 0 < allowance) := by
  cases taken with
  | reserving call permits taken before =>
      have same : (window.inFlight ++ [InFlight.reserving call]).countP InFlight.isSent =
          window.unprocessed := by
        simp [Window.unprocessed, InFlight.isSent]
      refine ⟨observed.frame taken before same, by simp, ?_⟩
      intro covered
      exact ⟨same.trans_le covered, by simp⟩
  | @released front back call held =>
      have same := sent_dropped held rfl
      obtain ⟨database, session, open_, inside, recorded⟩ := observed
      refine ⟨⟨database, session, open_, inside, recorded.mono ?_⟩, by simp, ?_⟩
      · exact (congrArg (window.allowance - ·) same).ge
      · intro covered
        exact ⟨same.trans_le covered, by simp⟩
  | @granted storage front back call wall held taken before =>
      have more := sent_granted held
      obtain ⟨next, following, rest, running, inside, recorded, spent⟩ :=
        observed.underlying taken before
      change rest + 1 ≤ _ at spent
      have covered : window.unprocessed + 1 ≤ window.allowance := by omega
      refine ⟨⟨next, following, running, inside, recorded.mono ?_⟩,
        fun _ _ _ => more.trans_le covered, fun _ => ⟨more.trans_le covered, by simp⟩⟩
      change rest ≤ window.allowance - (front ++ InFlight.sent call :: back).countP InFlight.isSent
      omega
  | @processed front back call held =>
      have fewer := sent_processed held (window.allowance - 1)
      obtain ⟨database, session, open_, inside, recorded⟩ := observed
      refine ⟨⟨database, session, open_, inside, recorded.mono ?_⟩, by simp, ?_⟩
      · change _ ≤ window.allowance - 1 -
          (front ++ InFlight.processed call (window.allowance - 1) :: back).countP InFlight.isSent
        omega
      · intro covered
        refine ⟨?_, ?_⟩
        · change (front ++ InFlight.processed call (window.allowance - 1) :: back).countP
            InFlight.isSent ≤ window.allowance - 1
          omega
        · intro sent allowance member
          simp only [List.mem_singleton, WindowEvent.processed.injEq] at member
          omega
  | @replied storage front back call feedbackCall left feedback held remaining reset taken before =>
      have same := sent_dropped held rfl
      refine ⟨observed.frame taken before same, by simp, ?_⟩
      intro covered
      exact ⟨same.trans_le covered, by simp⟩
  | @storage storage emitted taken other before =>
      refine ⟨observed.frame taken before rfl, ?_, ?_⟩
      · intro call wall member
        simp only [List.mem_map, WindowEvent.storage.injEq, exists_eq_right] at member
        exact absurd trivial (other _ member)
      · intro covered
        exact ⟨covered, by simp⟩

/-! ### Before anything is recorded -/

/-- A storage step that retains nothing for the window. -/
theorem Unobserved.underlying (unobserved : Unobserved maxConcurrency resetAt window)
    (taken : Step codec window.storage emitted reached)
    (silent : ∀ feedback, Event.feedbackRetained .abuseipdbCheck feedback ∉ emitted)
    (before : Before resetAt reached) :
    ∃ database session next following, window.storage = .running database session ∧
      reached = .running next following ∧ Inside maxConcurrency resetAt next following ∧
      ((Unrecorded .abuseipdbCheck resetAt.timestampMillis (window.allowance - window.unprocessed)
            (unobservedAttempts maxConcurrency) next following ∧
          following.runtime.pending .abuseipdbCheck = session.runtime.pending .abuseipdbCheck ∧
          ∀ feedback now, Event.feedbackCommitted .abuseipdbCheck feedback now ∉ emitted) ∨
        session.runtime.pending .abuseipdbCheck ≠ none ∧
          Recorded .abuseipdbCheck resetAt.timestampMillis
            (window.allowance - window.unprocessed) next following) := by
  obtain ⟨database, session, open_, inside, _, unrecorded, _⟩ := unobserved
  rw [open_] at taken
  obtain ⟨next, following, rfl, still, move⟩ := inside.step taken before
  exact ⟨database, session, next, following, open_, rfl, still,
    @Unrecorded.step .abuseipdb _ _ _ _ _ _ _ _ unrecorded move silent inside.limits
      inside.clocked inside.before⟩

/-- The first reply to be retained leaves, after the unobserved attempts are
taken off it, no more than the provider has for new attempts. -/
theorem first_reply {left : Nat} {front back : List InFlight} {call : CallId}
    (held : window.inFlight = front ++ .processed call left :: back)
    (permits : window.inFlight.length ≤ maxConcurrency)
    (within : left ≤ window.allowance + (window.replies.length - 1)) :
    left ≤ window.allowance - window.unprocessed + unobservedAttempts maxConcurrency := by
  have shared : ∀ attempts : List InFlight, attempts.countP InFlight.isSent +
      (attempts.filterMap InFlight.reply).length ≤ attempts.length := by
    intro attempts
    induction attempts with
    | nil => exact le_refl _
    | cons attempt rest ih =>
        cases attempt <;>
          simp [List.countP_cons, List.filterMap_cons, InFlight.isSent, InFlight.reply] <;> omega
  have all := shared window.inFlight
  have one : 0 < window.replies.length := by
    simp [Window.replies, held, InFlight.reply]
  change window.unprocessed + window.replies.length ≤ _ at all
  unfold unobservedAttempts
  omega

/-- What holds of every state of a window, and of the trace that led to it. -/
def Baseline (maxConcurrency : Nat) (resetAt : DateTime) (seen : List WindowEvent)
    (window : Window) : Prop :=
  Observed maxConcurrency resetAt window ∨
    (Unobserved maxConcurrency resetAt window ∧
      ∀ feedback now, .storage (.feedbackCommitted .abuseipdbCheck feedback now) ∉ seen)

/-- A storage step that retains nothing and answers no attempt. -/
theorem Unobserved.frame (unobserved : Unobserved maxConcurrency resetAt window)
    (taken : Step codec window.storage emitted reached)
    (silent : ∀ feedback, Event.feedbackRetained .abuseipdbCheck feedback ∉ emitted)
    (before : Before resetAt reached) {inFlight : List InFlight}
    (permits : inFlight.length ≤ maxConcurrency)
    (sent : inFlight.countP InFlight.isSent = window.unprocessed)
    (replies : inFlight.filterMap InFlight.reply = window.replies) :
    Baseline maxConcurrency resetAt (emitted.map .storage)
      { window with storage := reached, inFlight } := by
  obtain ⟨database, session, next, following, open_, running, inside, phase⟩ :=
    unobserved.underlying taken silent before
  obtain ⟨_, _, holds, _, _, _, fits⟩ := unobserved
  cases holds.symm.trans open_
  rw [← sent] at phase
  rcases phase with ⟨unrecorded, kept, uncommitted⟩ | ⟨_, recorded⟩
  · refine Or.inr ⟨⟨next, following, running, inside, permits, unrecorded, ?_⟩, ?_⟩
    · intro none_
      rw [kept] at none_
      unfold Window.replies
      rw [replies]
      exact fits none_
    · intro feedback now member
      simp only [List.mem_map, WindowEvent.storage.injEq, exists_eq_right] at member
      exact uncommitted feedback now member
  · exact Or.inl ⟨next, following, running, inside, recorded⟩

/-- An answer finds nothing retained, so it records nothing. -/
theorem Unobserved.answered (unobserved : Unobserved maxConcurrency resetAt window)
    {front back : List InFlight} {call : CallId} {wall : DateTime}
    (held : window.inFlight = front ++ .reserving call :: back)
    (taken : Step codec window.storage [.reserveReturned call .abuseipdb wall (.ok ())] reached)
    (before : Before resetAt reached) :
    Unobserved maxConcurrency resetAt
      { window with storage := reached, inFlight := front ++ .sent call :: back } := by
  obtain ⟨database, session, next, following, open_, running, inside, phase⟩ :=
    unobserved.underlying taken (by simp) before
  obtain ⟨_, _, holds, _, permits, _, fits⟩ := unobserved
  cases holds.symm.trans open_
  rw [open_] at taken
  obtain ⟨_, _, _, _, same, _, _, _, silent, _⟩ := taken.of_grant (List.mem_singleton.mpr rfl)
  cases same
  rcases phase with ⟨unrecorded, kept, _⟩ | ⟨retained, _⟩
  · have replies : (front ++ InFlight.sent call :: back).filterMap InFlight.reply =
        window.replies := by
      simp [Window.replies, held, List.filterMap_cons, InFlight.reply]
    have still := unrecorded.of_silent (kept.trans silent)
    refine ⟨next, following, running, inside, permits_moved held permits _, still _, ?_⟩
    intro _
    unfold Window.replies
    rw [replies]
    exact fits silent
  · exact absurd silent retained

/-- With nothing recorded, the provider's allowance bounds what it will reply. -/
theorem Unobserved.processed (unobserved : Unobserved maxConcurrency resetAt window)
    {front back : List InFlight} {call : CallId}
    (held : window.inFlight = front ++ .sent call :: back) :
    Unobserved maxConcurrency resetAt { window with
      allowance := window.allowance - 1
      inFlight := front ++ .processed call (window.allowance - 1) :: back } := by
  obtain ⟨database, session, open_, inside, permits, unrecorded, fits⟩ := unobserved
  refine ⟨database, session, open_, inside, permits_moved held permits _, unrecorded.mono ?_,
    fun silent => replies_processed held (fits silent)⟩
  have fewer := sent_processed held (window.allowance - 1)
  change _ ≤ window.allowance - 1 -
    (front ++ InFlight.processed call (window.allowance - 1) :: back).countP InFlight.isSent
  omega

/-- The first reply to be retained leaves the row as it was. -/
theorem Unobserved.retained (unobserved : Unobserved maxConcurrency resetAt window)
    {front back : List InFlight} {call feedbackCall : CallId} {left : Nat}
    {feedback : QuotaFeedback} (held : window.inFlight = front ++ .processed call left :: back)
    (remaining : feedback.remaining = some left) (reset : feedback.resetAt = some resetAt)
    (taken : Step codec window.storage [.callStarted feedbackCall (.feedback .abuseipdb),
      .feedbackRetained .abuseipdbCheck feedback] reached)
    (before : Before resetAt reached) :
    Unobserved maxConcurrency resetAt
      { window with storage := reached, inFlight := front ++ back } := by
  obtain ⟨database, session, open_, inside, permits, unrecorded, fits⟩ := unobserved
  rw [open_] at taken
  obtain ⟨next, following, rfl, still, move⟩ := inside.step taken before
  obtain ⟨rfl, runtime, gate⟩ := move.of_feedbackRetained
    (List.mem_cons_of_mem _ (List.mem_singleton.mpr rfl))
  have reported : left ∈ window.replies := by
    simp [Window.replies, held, InFlight.reply]
  obtain ⟨unrecorded, retained⟩ := @Unrecorded.retain .abuseipdb _ _ _ _ _ _ unrecorded feedback
    (fun silent => ⟨left, resetAt, remaining,
      first_reply held permits (fits silent left reported), reset, le_refl _⟩) runtime gate
  rw [← sent_dropped held rfl] at unrecorded
  exact ⟨_, following, rfl, still, permits_dropped held permits, unrecorded,
    fun silent => absurd silent retained⟩

/-- A step of an unobserved window either leaves it unobserved, without a
commit, or records the first allowance. -/
theorem Unobserved.step (unobserved : Unobserved maxConcurrency resetAt window)
    (taken : WindowStep codec maxConcurrency resetAt window events after) :
    Baseline maxConcurrency resetAt events after := by
  cases taken with
  | reserving call permits taken before =>
      refine unobserved.frame taken (by simp) before ?_ ?_ ?_
      · rw [List.length_append]
        exact permits
      · simp [Window.unprocessed, InFlight.isSent]
      · simp [Window.replies, InFlight.reply]
  | @released front back call held =>
      obtain ⟨database, session, open_, inside, permits, unrecorded, fits⟩ := unobserved
      have replies : (front ++ back).filterMap InFlight.reply = window.replies := by
        simp [Window.replies, held, List.filterMap_cons, InFlight.reply]
      rw [← sent_dropped held rfl] at unrecorded
      rw [← replies] at fits
      exact Or.inr ⟨⟨database, session, open_, inside, permits_dropped held permits, unrecorded,
        fits⟩, by simp⟩
  | granted held taken before =>
      exact Or.inr ⟨unobserved.answered held taken before, by simp⟩
  | processed held =>
      exact Or.inr ⟨unobserved.processed held, by simp⟩
  | replied held remaining reset taken before =>
      exact Or.inr ⟨unobserved.retained held remaining reset taken before, by simp⟩
  | @storage storage emitted taken other before =>
      have permits : window.inFlight.length ≤ maxConcurrency := by
        obtain ⟨_, _, _, _, permits, _⟩ := unobserved
        exact permits
      exact unobserved.frame taken (fun feedback member => other _ member trivial) before permits
        rfl rfl

/-! ### Runs inside the window -/

/-- At the opening of a window nothing is recorded. -/
theorem Opens.baseline (opens : Opens maxConcurrency resetAt window database session)
    (clocked : window.storage.Clocked) : Baseline maxConcurrency resetAt [] window := by
  rw [opens.storage] at clocked
  refine Or.inr ⟨⟨database, session, opens.storage, ⟨clocked, opens.before, opens.limits⟩,
    opens.permits, ⟨opens.unrecorded, ?_, ?_, ?_⟩, ?_⟩, by simp⟩
  · intro entry present
    exact absurd (opens.unretained.symm.trans present) nofun
  · intro entry inFlight
    exact absurd inFlight (opens.unsaved entry)
  · intro entry saved
    exact opens.unsaved entry (Gate.saving_of_saved saved)
  · rw [opens.unprocessed]
    intro _ left member
    cases member

/-- A run inside the window keeps the baseline. -/
theorem baseline_run {start : Window}
    (run : Run (WindowStep codec maxConcurrency resetAt) start seen window)
    (initial : Baseline maxConcurrency resetAt [] start) :
    Baseline maxConcurrency resetAt seen window := by
  refine run.invariant (Baseline maxConcurrency resetAt) initial ?_
  rintro seen before events after _ (observed | ⟨unobserved, uncommitted⟩) taken
  · exact Or.inl (observed.step taken).1
  · rcases unobserved.step taken with observed | ⟨still, quiet⟩
    · exact Or.inl observed
    · refine Or.inr ⟨still, ?_⟩
      intro feedback now member
      rcases List.mem_append.mp member with earlier | here
      · exact uncommitted feedback now earlier
      · exact quiet feedback now here

/-- Once every attempt in flight is covered, none finds the provider empty. -/
theorem covered_run {start : Window}
    (run : Run (WindowStep codec maxConcurrency resetAt) start seen window)
    (observed : Observed maxConcurrency resetAt start)
    (covered : start.unprocessed ≤ start.allowance) :
    ∀ call allowance, .processed call allowance ∈ seen → 0 < allowance := by
  have always := run.invariant (fun seen window => Observed maxConcurrency resetAt window ∧
    window.unprocessed ≤ window.allowance ∧
    ∀ call allowance, .processed call allowance ∈ seen → 0 < allowance) ⟨observed, covered, by simp⟩
    (by
      rintro seen before events after _ ⟨observed, covered, positive⟩ taken
      obtain ⟨still, _, spent⟩ := observed.step taken
      obtain ⟨left, here⟩ := spent covered
      refine ⟨still, left, ?_⟩
      intro call allowance member
      rcases List.mem_append.mp member with earlier | late
      · exact positive call allowance earlier
      · exact here call allowance late)
  exact always.2.2

/-- What is recorded is within what the provider has for attempts yet to come. -/
theorem Observed.recordedRemaining (observed : Observed maxConcurrency resetAt window)
    {remaining : Nat} (recorded : window.recordedRemaining = some remaining) :
    remaining ≤ window.allowance - window.unprocessed := by
  obtain ⟨database, session, open_, _, left, ⟨stored, _, row, within, _⟩, bounded⟩ := observed
  rw [Window.recordedRemaining, open_] at recorded
  cases row.symm.trans recorded
  omega

/-- **The first observation is conservative.** Throughout a provider window a
recorded `provider_remaining` is at most the allowance of the provider less the
attempts it has yet to process. No attempt granted after a committed feedback,
and none processed after such a grant, finds the provider empty. -/
theorem baseline_conservative {file : Option Database} {earlier : List Event} {start : Window}
    (reachable : Run (Step codec) (.closed file) earlier start.storage)
    (opens : Opens maxConcurrency resetAt start database session)
    (run : Run (WindowStep codec maxConcurrency resetAt) start seen window) :
    (∀ remaining, window.recordedRemaining = some remaining →
      remaining ≤ window.allowance - window.unprocessed) ∧
    ∀ feedback now, .storage (.feedbackCommitted .abuseipdbCheck feedback now) ∈ seen →
      ∀ call wall granted later final,
        WindowStep codec maxConcurrency resetAt window
          [.storage (.reserveReturned call .abuseipdb wall (.ok ()))] granted →
        Run (WindowStep codec maxConcurrency resetAt) granted later final →
        ∀ sent allowance, .processed sent allowance ∈ later → 0 < allowance := by
  have baseline := baseline_run run (opens.baseline (clocked_run reachable trivial))
  constructor
  · intro remaining recorded
    rcases baseline with observed | ⟨⟨_, _, open_, _, _, unrecorded, _⟩, _⟩
    · exact observed.recordedRemaining recorded
    · rw [Window.recordedRemaining, open_] at recorded
      exact absurd (unrecorded.row.symm.trans recorded) nofun
  · intro feedback now committed call wall granted later final taken rest
    rcases baseline with observed | ⟨_, uncommitted⟩
    · obtain ⟨still, covered, _⟩ := observed.step taken
      exact covered_run rest still (covered call wall (List.mem_singleton.mpr rfl))
    · exact absurd committed (uncommitted feedback now)

/-- A lone attempt whose reserve nothing interrupts, up to its answer. -/
theorem uninterrupted_grant {decision : QuotaDecision} (wall : DateTime)
    (open_ : window.storage = .running database session) (alone : window.inFlight = [])
    (permits : 0 < maxConcurrency) (free : session.gate = .free) (idle : session.waiting = [])
    (saved : session.runtime.pending .abuseipdbCheck = none)
    (caughtUp : ¬ wall.timestampMillis < (session.runtime.observe wall).highWater)
    (reserves : reserveTransaction database .abuseipdbCheck (session.settings.limits .abuseipdb)
      wall wall.timestampMillis none = .ok (next, decision))
    (permitted : decision.blocked = false)
    (before : (session.runtime.observe wall).highWater < resetAt.timestampMillis) :
    ∃ seen asking following,
      Run (WindowStep codec maxConcurrency resetAt) window seen asking ∧
      WindowStep codec maxConcurrency resetAt asking
        [.storage (.reserveReturned session.nextCall .abuseipdb wall (.ok ()))]
        { storage := .running next following, allowance := window.allowance,
          inFlight := [.sent session.nextCall] } ∧
      following.gate = .free ∧ following.waiting = [] ∧
      following.runtime = session.runtime.observe wall ∧ following.settings = session.settings := by
  obtain ⟨storage, allowance, inFlight⟩ := window
  cases open_
  cases alone
  have earlier : session.runtime.highWater < resetAt.timestampMillis :=
    (session.runtime.highWater_le_observe wall).trans_lt before
  have run := Run.single (@WindowStep.reserving codec maxConcurrency resetAt
    ⟨.running database session, allowance, []⟩ _ session.nextCall permits
    (.started (.reserve .abuseipdb) (fun _ => nofun) trivial) earlier)
  have run := run.snoc (.storage (@Step.reserveSnapshot _ _ _ [] [] _ _ wall free (by rw [idle])
    caughtUp) (by simp) before)
  rw [show session.runtime.pending (quotaGroup .abuseipdb) = none from saved] at run
  have run := run.snoc (.storage (.reserveCommitted rfl reserves)
    (by simp [OfAttempt, appliedFeedback, grantedReservation, permitted]) before)
  have run := run.snoc (.storage (.reserveCleared rfl) (by simp) before)
  have answered := @Step.grants codec next { session with
    runtime := session.runtime.observe wall
    nextCall := session.nextCall + 1
    waiting := []
    gate := .checking session.nextCall .abuseipdb { wall, pending := none } decision } _ _ _ _ rfl
      saved permitted
  exact ⟨_, ⟨_, allowance, [.reserving session.nextCall]⟩, _, run,
    @WindowStep.granted _ _ _ _ _ [] [] _ _ rfl answered before, rfl, rfl, rfl, rfl⟩

/-- A lone attempt that is processed, and whose reply nothing keeps from the
row. -/
theorem uninterrupted_reply {call : CallId} {feedback : QuotaFeedback} (wall : DateTime)
    (open_ : window.storage = .running database session) (alone : window.inFlight = [.sent call])
    (free : session.gate = .free) (idle : session.waiting = [])
    (saved : session.runtime.pending .abuseipdbCheck = none)
    (reported : feedback.remaining = some (window.allowance - 1))
    (reset : feedback.resetAt = some resetAt)
    (applies : feedbackTransaction database .abuseipdbCheck (session.settings.limits .abuseipdb)
      (session.runtime.observe wall).highWater
      { generation := session.runtime.nextGeneration + 1, feedback } = .ok next)
    (before : (session.runtime.observe wall).highWater < resetAt.timestampMillis) :
    ∃ seen following,
      Run (WindowStep codec maxConcurrency resetAt) window seen
        { storage := .running next following, allowance := window.allowance - 1, inFlight := [] } ∧
      .storage (.feedbackCommitted .abuseipdbCheck feedback
        (session.runtime.observe wall).highWater) ∈ seen ∧
      following.gate = .free ∧ following.waiting = [] ∧
      following.runtime.pending .abuseipdbCheck = none ∧
      following.runtime.highWater = (session.runtime.observe wall).highWater ∧
      following.settings = session.settings := by
  obtain ⟨storage, allowance, inFlight⟩ := window
  cases open_
  cases alone
  have earlier : session.runtime.highWater < resetAt.timestampMillis :=
    (session.runtime.highWater_le_observe wall).trans_lt before
  have retained : (session.runtime.retain .abuseipdbCheck feedback).pending .abuseipdbCheck =
      some { generation := session.runtime.nextGeneration + 1, feedback } := by
    simp [RuntimeState.retain, saved]
  have run := Run.single (@WindowStep.processed codec maxConcurrency resetAt
    ⟨.running database session, allowance, [.sent call]⟩ [] [] call rfl)
  have run := run.snoc (@WindowStep.replied _ _ _ _ _ [] [] _ _ _ feedback rfl reported reset
    (.retained .abuseipdb feedback) earlier)
  have run := run.snoc (.storage (@Step.feedbackSnapshot _ _ _ [] [] _ .abuseipdb _ wall
    free (by rw [idle]) retained) (by simp) before)
  have run := run.snoc (.storage (.feedbackCommitted rfl applies)
    (by simp [OfAttempt, appliedFeedback]) before)
  have run := run.snoc (.storage (.feedbackCleared rfl) (by simp) (by
    change (RuntimeState.clearPending _ _ _).highWater < _
    rw [RuntimeState.clearPending_highWater]
    exact before))
  refine ⟨_, _, run, List.mem_append_left _ (List.mem_append_right _ (List.mem_singleton.mpr rfl)),
    rfl, rfl, ?_, ?_, rfl⟩
  · exact RuntimeState.clearPending_self retained
  · rw [RuntimeState.clearPending_highWater]
    rfl

/-- A new file at the epoch, and a provider with two attempts left. -/
def openingWindow : Window where
  storage := .running (.create .epoch) (.fresh twoAttemptSettings 0)
  allowance := 2
  inFlight := []

/-- The second attempt is granted on the report of the first. -/
theorem baseline_conservative_second :
    ∃ window granted : Window,
      (∀ remaining, window.recordedRemaining = some remaining →
        remaining ≤ window.allowance - window.unprocessed) ∧ 0 < granted.allowance := by
  have opened : Run (Step .blank) (.closed none) [.opened twoAttemptSettings .epoch 0]
      openingWindow.storage :=
    .single (@Step.opened .blank none twoAttemptSettings .epoch .epoch _ _ rfl)
  have opens : Opens 1 hourAfter openingWindow (.create .epoch) (.fresh twoAttemptSettings 0) :=
    ⟨rfl, rfl, by decide, rfl, rfl, fun _ => nofun, by decide, rfl⟩
  obtain ⟨first, reserves, second, applies, third, again⟩ : ∃ first,
      reserveTransaction (.create .epoch) .abuseipdbCheck twoAttempts .epoch 0 none =
        .ok (first, { blocked := false, retryAfter := none }) ∧
      ∃ second, feedbackTransaction first .abuseipdbCheck twoAttempts 0
        { generation := 1, feedback := .oneLeft } = .ok second ∧
      ∃ third, reserveTransaction second .abuseipdbCheck twoAttempts .epoch 0 none =
        .ok (third, { blocked := false, retryAfter := none }) := ⟨_, rfl, _, rfl, _, rfl⟩
  obtain ⟨_, _, session, asked, granted, free, idle, runtime, settings⟩ :=
    @uninterrupted_grant .blank 1 hourAfter openingWindow _ _ (.fresh twoAttemptSettings 0) _ .epoch
      rfl rfl (by decide) rfl rfl rfl (by decide) reserves rfl (by decide)
  have fresh : session.runtime.pending .abuseipdbCheck = none := by
    rw [runtime]
    rfl
  have clock : (session.runtime.observe .epoch).highWater = 0 := by
    rw [runtime]
    decide
  have generation : session.runtime.nextGeneration + 1 = 1 := by
    rw [runtime]
    rfl
  rw [← generation, ← clock] at applies
  obtain ⟨_, following, replied, committed, free, idle, saved, time, settings'⟩ :=
    @uninterrupted_reply .blank 1 hourAfter ⟨.running first session, 2, [.sent 0]⟩ first second
      session 0 .oneLeft .epoch rfl rfl free idle fresh rfl rfl (by rw [settings]; exact applies)
      (by rw [clock]; decide)
  rw [clock] at time
  have caughtUp : (following.runtime.observe .epoch).highWater = 0 := by
    change max _ _ = _
    rw [time]
    decide
  obtain ⟨_, asking, _, again, answered, _⟩ :=
    @uninterrupted_grant .blank 1 hourAfter ⟨.running second following, 1, []⟩ second third
      following _ .epoch rfl rfl (by decide) free idle saved (by rw [caughtUp]; decide)
      (by rw [settings', settings]; exact again) rfl (by rw [caughtUp]; decide)
  have run := ((asked.snoc granted).append replied).append again
  obtain ⟨bounded, positive⟩ := baseline_conservative opened opens run
  have left := positive _ _ (List.mem_append_left _ (List.mem_append_right _ committed)) _ _ _ _ _
    answered (.single (@WindowStep.processed _ _ _ _ [] [] _ rfl)) _ _ (List.mem_singleton.mpr rfl)
  exact ⟨asking, _, bounded, left⟩

end RustEnrich.Enrichment
