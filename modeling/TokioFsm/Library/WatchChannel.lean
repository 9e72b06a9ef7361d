import Mathlib.Logic.Basic

/-!
# Watch channels and waiting for a value

A watch channel holds the latest value sent, together with a version that
changes with every send and a flag telling whether the sender is gone.  A
waiter repeats two steps: it borrows the value and marks its version as seen,
and, unless the value is the one it wants, awaits a version it has not seen.
Senders may overwrite values between any two of its steps.

The invariant `Waiter.Tracks` says what a waiter knows about the channel at
each of its program points.  It survives everything the sender may do and
every step of the waiter, which is all that the absence of lost wake-ups and
of false answers needs.
-/

namespace WatchChannel

/-- What sender and receivers share. -/
structure Channel (Value : Type*) where
  value : Value
  version : Nat := 0
  closed : Bool := false
deriving DecidableEq

namespace Channel

variable {Value : Type*}

/-- Send a value; without receivers the send fails and stores nothing. -/
def send (channel : Channel Value) (receivers : Nat) (value : Value) : Channel Value :=
  if receivers = 0 then channel
  else { channel with value := value, version := channel.version + 1 }

@[simp]
theorem closed_send (channel : Channel Value) (receivers : Nat) (value : Value) :
    (channel.send receivers value).closed = channel.closed := by
  unfold send
  split <;> rfl

/-- Drop the sender. -/
def close (channel : Channel Value) : Channel Value :=
  { channel with closed := true }

/-- What a channel may become: the version never goes back and stands for one
value, and nothing is sent once the sender is gone. -/
structure Later (first second : Channel Value) : Prop where
  version_le : first.version ≤ second.version
  value_eq : second.version = first.version → second.value = first.value
  closed_eq : first.closed = true → second = first

theorem Later.refl (channel : Channel Value) : Later channel channel :=
  ⟨Nat.le_refl _, fun _ => rfl, fun _ => rfl⟩

theorem Later.trans {first second third : Channel Value}
    (earlier : Later first second) (later : Later second third) : Later first third where
  version_le := Nat.le_trans earlier.version_le later.version_le
  value_eq same := by
    have firstLe := earlier.version_le
    have secondLe := later.version_le
    exact (later.value_eq (by omega)).trans (earlier.value_eq (by omega))
  closed_eq closed := by
    have unchanged := earlier.closed_eq closed
    rw [later.closed_eq (by rw [unchanged]; exact closed), unchanged]

theorem later_send {channel : Channel Value} (isOpen : channel.closed = false)
    (receivers : Nat) (value : Value) : Later channel (channel.send receivers value) := by
  unfold send
  split
  · exact Later.refl channel
  · exact ⟨Nat.le_succ _, fun same => (Nat.succ_ne_self _ same).elim,
      fun closed => by simp [isOpen] at closed⟩

theorem later_close {channel : Channel Value} : Later channel channel.close where
  version_le := Nat.le_refl _
  value_eq _ := rfl
  closed_eq closed := by
    cases channel
    simp_all [close]

end Channel

/-- Where a waiter stands.  Its receiver remembers the version it last saw. -/
inductive Point (Value : Type*)
  /-- about to borrow the value and mark it as seen -/
  | borrowing (seen : Nat)
  /-- has borrowed a value and is about to compare it with the target -/
  | comparing (seen : Nat) (borrowed : Value)
  /-- awaits a version it has not seen -/
  | awaiting (seen : Nat)
  /-- has returned: `true` for success, `false` for an error -/
  | returned (success : Bool)
  /-- was dropped by its caller before it returned -/
  | dropped
deriving DecidableEq

/-- A call that waits until the channel holds the target value. -/
structure Waiter (Value : Type*) where
  target : Value
  point : Point Value
deriving DecidableEq

namespace Waiter

variable {Value : Type*}

/-- The next step of a waiter; `none` while it is parked, and once it is
over. -/
def advance [DecidableEq Value] (channel : Channel Value) (waiter : Waiter Value) :
    Option (Waiter Value) :=
  match waiter.point with
  | .borrowing _ =>
      some { waiter with point := .comparing channel.version channel.value }
  | .comparing seen borrowed =>
      if borrowed = waiter.target then some { waiter with point := .returned true }
      else some { waiter with point := .awaiting seen }
  | .awaiting seen =>
      if channel.version ≠ seen then
        some { waiter with point := .borrowing channel.version }
      else if channel.closed then some { waiter with point := .returned false }
      else none
  | .returned _ => none
  | .dropped => none

/-- The call is still running. -/
def Active (waiter : Waiter Value) : Prop :=
  match waiter.point with
  | .borrowing _ | .comparing _ _ | .awaiting _ => True
  | .returned _ | .dropped => False

instance (waiter : Waiter Value) : Decidable waiter.Active := by
  unfold Active
  split <;> infer_instance

/-- What a waiter knows about the channel. -/
def Tracks (channel : Channel Value) (waiter : Waiter Value) : Prop :=
  match waiter.point with
  | .borrowing seen => seen ≤ channel.version
  | .comparing seen borrowed =>
      seen ≤ channel.version ∧ (channel.version = seen → channel.value = borrowed)
  | .awaiting seen =>
      seen ≤ channel.version ∧ (channel.version = seen → channel.value ≠ waiter.target)
  | .returned success =>
      success = false → channel.closed = true ∧ channel.value ≠ waiter.target
  | .dropped => True

/-- Nothing the sender does invalidates what a waiter knows. -/
theorem Tracks.later {first second : Channel Value} {waiter : Waiter Value}
    (tracks : Tracks first waiter) (later : Channel.Later first second) :
    Tracks second waiter := by
  have versionLe := later.version_le
  unfold Tracks at tracks ⊢
  split at tracks
  next seen => exact Nat.le_trans tracks versionLe
  next seen borrowed =>
    refine ⟨Nat.le_trans tracks.1 versionLe, fun current => ?_⟩
    have unchanged : second.version = first.version := by omega
    rw [later.value_eq unchanged]
    exact tracks.2 (by omega)
  next seen =>
    refine ⟨Nat.le_trans tracks.1 versionLe, fun current => ?_⟩
    have unchanged : second.version = first.version := by omega
    rw [later.value_eq unchanged]
    exact tracks.2 (by omega)
  next success =>
    intro failed
    rw [later.closed_eq (tracks failed).1]
    exact tracks failed
  next => trivial

/-- A waiter keeps to what it knows. -/
theorem Tracks.advance [DecidableEq Value] {channel : Channel Value}
    {waiter next : Waiter Value} (tracks : Tracks channel waiter)
    (step : waiter.advance channel = some next) : Tracks channel next := by
  obtain ⟨target, point⟩ := waiter
  cases point with
  | borrowing seen =>
      obtain rfl := Option.some.inj step
      exact ⟨Nat.le_refl _, fun _ => rfl⟩
  | comparing seen borrowed =>
      simp only [Waiter.advance] at step
      split at step
      next equal =>
        obtain rfl := Option.some.inj step
        exact fun failed => by cases failed
      next differs =>
        obtain rfl := Option.some.inj step
        exact ⟨tracks.1, fun current => by rw [tracks.2 current]; exact differs⟩
  | awaiting seen =>
      simp only [Waiter.advance] at step
      split at step
      next unseen =>
        obtain rfl := Option.some.inj step
        exact Nat.le_refl _
      next current =>
        split at step
        next closed =>
          obtain rfl := Option.some.inj step
          exact fun _ => ⟨closed, tracks.2 (not_not.mp current)⟩
        next => cases step
  | returned success => cases step
  | dropped => cases step

/-- A call starts out knowing nothing beyond the version its receiver saw. -/
theorem tracks_borrowing {channel : Channel Value} {seen : Nat} (target : Value)
    (seenLe : seen ≤ channel.version) :
    Tracks channel ⟨target, .borrowing seen⟩ :=
  seenLe

/-- The number of own steps after which a call on a closed channel has
returned. -/
def remaining (channel : Channel Value) (waiter : Waiter Value) : Nat :=
  match waiter.point with
  | .borrowing _ => 3
  | .comparing seen _ => if channel.version = seen then 2 else 5
  | .awaiting seen => if channel.version = seen then 1 else 4
  | .returned _ | .dropped => 0

/-- On a closed channel every step of a waiter brings it closer to its
return. -/
theorem remaining_advance [DecidableEq Value] {channel : Channel Value}
    {waiter next : Waiter Value} (step : waiter.advance channel = some next) :
    next.remaining channel < waiter.remaining channel := by
  obtain ⟨target, point⟩ := waiter
  cases point with
  | borrowing seen =>
      obtain rfl := Option.some.inj step
      simp [remaining]
  | comparing seen borrowed =>
      simp only [Waiter.advance] at step
      split at step <;> obtain rfl := Option.some.inj step <;>
        by_cases current : channel.version = seen <;> simp [remaining, current]
  | awaiting seen =>
      simp only [Waiter.advance] at step
      split at step
      next unseen =>
        obtain rfl := Option.some.inj step
        simp [remaining, unseen]
      next current =>
        split at step
        next =>
          obtain rfl := Option.some.inj step
          simp only [remaining]
          split <;> omega
        next => cases step
  | returned success => cases step
  | dropped => cases step

/-- A step leaves the target alone, and leaves the waiter running or returned. -/
theorem advance_cases [DecidableEq Value] {channel : Channel Value}
    {waiter next : Waiter Value} (step : waiter.advance channel = some next) :
    next.target = waiter.target ∧
      (next.Active ∨ ∃ success, next.point = .returned success) := by
  obtain ⟨target, point⟩ := waiter
  cases point with
  | borrowing seen =>
      cases step
      exact ⟨rfl, Or.inl trivial⟩
  | comparing seen borrowed =>
      simp only [Waiter.advance] at step
      split at step
      · cases step
        exact ⟨rfl, Or.inr ⟨true, rfl⟩⟩
      · cases step
        exact ⟨rfl, Or.inl trivial⟩
  | awaiting seen =>
      simp only [Waiter.advance] at step
      split at step
      · cases step
        exact ⟨rfl, Or.inl trivial⟩
      · split at step
        · cases step
          exact ⟨rfl, Or.inr ⟨false, rfl⟩⟩
        · cases step
  | returned success => cases step
  | dropped => cases step

/-- The values a waiter has borrowed so far: the one it compares, and the one
it returned for. -/
def Saw (held : Value → Prop) (waiter : Waiter Value) : Prop :=
  match waiter.point with
  | .comparing _ borrowed => held borrowed
  | .returned true => held waiter.target
  | _ => True

theorem Saw.mono {held later : Value → Prop} {waiter : Waiter Value}
    (saw : waiter.Saw held) (weaker : ∀ value, held value → later value) :
    waiter.Saw later := by
  unfold Saw at saw ⊢
  split at saw
  · exact weaker _ saw
  · exact weaker _ saw
  · trivial

/-- A waiter returns successfully only for a value it has borrowed. -/
theorem Saw.advance [DecidableEq Value] {channel : Channel Value}
    {waiter next : Waiter Value} {held : Value → Prop} (saw : waiter.Saw held)
    (current : held channel.value) (step : waiter.advance channel = some next) :
    next.Saw held := by
  obtain ⟨target, point⟩ := waiter
  cases point with
  | borrowing seen =>
      cases step
      exact current
  | comparing seen borrowed =>
      simp only [Waiter.advance] at step
      split at step
      next equal =>
        cases step
        have sawBorrowed : held borrowed := saw
        rwa [equal] at sawBorrowed
      next =>
        cases step
        trivial
  | awaiting seen =>
      simp only [Waiter.advance] at step
      split at step
      · cases step
        trivial
      · split at step
        · cases step
          trivial
        · cases step
  | returned success => cases step
  | dropped => cases step

theorem remaining_le (channel : Channel Value) (waiter : Waiter Value) :
    waiter.remaining channel ≤ 5 := by
  unfold remaining
  split
  · omega
  · split <;> omega
  · split <;> omega
  · omega
  · omega

/-- On a closed channel an active waiter is never parked. -/
theorem exists_advance_of_closed [DecidableEq Value] {channel : Channel Value}
    {waiter : Waiter Value} (closed : channel.closed = true) (active : waiter.Active) :
    ∃ next, waiter.advance channel = some next := by
  obtain ⟨target, point⟩ := waiter
  cases point with
  | borrowing seen => exact ⟨_, rfl⟩
  | comparing seen borrowed =>
      by_cases equal : borrowed = target
      · exact ⟨_, by simp [Waiter.advance, equal]; rfl⟩
      · exact ⟨_, by simp [Waiter.advance, equal]; rfl⟩
  | awaiting seen =>
      by_cases unseen : channel.version = seen
      · exact ⟨_, by simp [Waiter.advance, unseen, closed]; rfl⟩
      · exact ⟨_, by simp [Waiter.advance, unseen]; rfl⟩
  | returned success => exact active.elim
  | dropped => exact active.elim

end Waiter

end WatchChannel
