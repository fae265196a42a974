-- A server reads the messages of a channel while others come in (wtsvc.c). The thread that
-- receives adds a message and sets an event, and the reader waits for the event. The steps of
-- the two threads come in any order.
import CorporateClient.StaticChannels

namespace neutrinordp.svc

/-- Where the consumer is in `WTSVirtualChannelRead`. -/
inductive Consumer
  | outside
  /-- The peek has found no message. -/
  | empty
  /-- The peek has found a message that fits in the buffer. -/
  | found
  /-- The message is out of the queue, and the mutex is held. -/
  | locked
  /-- No message is left, and the mutex is held. -/
  | last
deriving Repr, DecidableEq

/-- `enqueued` says that the producer has added a message and not set the event yet. -/
structure Reading where
  receive_queue : List (List UInt8)
  receive_event : Bool
  enqueued : Bool
  consumer : Consumer
deriving Repr, DecidableEq

/-- The steps of `WTSProcessChannelData` and of `WTSVirtualChannelRead`. -/
inductive Move
  | enqueue (item : List UInt8)
  | set
  | peek (BufferSize : Nat)
  | dequeue
  | test
  | clear
deriving Repr, DecidableEq

/-- `none` is a step that the thread is not at, or that waits for the mutex. The peek does not
take the mutex. -/
def Reading.step (s : Reading) : Move → Option Reading
  | .enqueue item =>
    if ¬ s.enqueued ∧ s.consumer ≠ .locked ∧ s.consumer ≠ .last then
      some { s with receive_queue := s.receive_queue ++ [item], enqueued := true }
    else none
  | .set =>
    if s.enqueued then some { s with receive_event := true, enqueued := false } else none
  | .peek BufferSize =>
    if s.consumer = .outside then
      match s.receive_queue with
      | [] => some { s with consumer := .empty }
      | item :: _ => some (if item.length > BufferSize then s else { s with consumer := .found })
    else none
  | .dequeue =>
    if s.consumer = .found then
      some { s with receive_queue := s.receive_queue.tail, consumer := .locked }
    else none
  | .test =>
    if s.consumer = .locked then
      some { s with consumer := if s.receive_queue = [] then .last else .outside }
    else none
  | .clear =>
    if s.consumer = .empty ∨ s.consumer = .last then
      some { s with receive_event := false, consumer := .outside }
    else none

/-- A queue that is not empty has its event set, unless the producer is about to set it. -/
def Woken (s : Reading) : Prop :=
  s.receive_queue ≠ [] → s.enqueued = false → s.receive_event = true

/-- The reader that found no message clears the event of a message that came since then. -/
def ClearsLate (s : Reading) (move : Move) : Prop :=
  move = .clear ∧ s.consumer = .empty ∧ s.receive_queue ≠ [] ∧ s.enqueued = false

def AlwaysWoken : Reading → List Move → Prop
  | _, [] => True
  | s, move :: moves => ∀ s' ∈ s.step move, Woken s' ∧ AlwaysWoken s' moves

def NeverClearsLate : Reading → List Move → Prop
  | _, [] => True
  | s, move :: moves => ¬ ClearsLate s move ∧ ∀ s' ∈ s.step move, NeverClearsLate s' moves

/-- What holds while no event is lost. -/
structure Sound (s : Reading) : Prop where
  woken : Woken s
  last : s.consumer = .last → s.receive_queue = []

variable {s s' : Reading} {move : Move}

theorem Sound.step (h : Sound s) (hlate : ¬ ClearsLate s move) (hs : s.step move = some s') :
    Sound s' := by
  obtain ⟨hwoken, hlast⟩ := h
  unfold Woken at hwoken
  unfold ClearsLate at hlate
  constructor <;> cases move <;> grind [Woken, Reading.step]

theorem ClearsLate.not_woken (h : ClearsLate s move) :
    ∃ s' ∈ s.step move, ¬ Woken s' := by
  obtain ⟨rfl, hempty, hqueue, hset⟩ := h
  exact ⟨_, if_pos (.inl hempty), fun h => Bool.false_ne_true (h hqueue hset)⟩

theorem alwaysWoken_iff (moves : List Move) (h : Sound s) :
    AlwaysWoken s moves ↔ NeverClearsLate s moves := by
  induction moves generalizing s with
  | nil => rfl
  | cons move moves ih =>
    constructor
    · intro hwoken
      have hlate : ¬ ClearsLate s move := by
        intro hlate
        obtain ⟨s', hs', hlost⟩ := hlate.not_woken
        exact hlost (hwoken s' hs').1
      exact ⟨hlate, fun s' hs' => (ih (h.step hlate hs')).mp (hwoken s' hs').2⟩
    · rintro ⟨hlate, hrest⟩ s' hs'
      have hnext := h.step hlate hs'
      exact ⟨hnext.woken, (ih hnext).mpr (hrest s' hs')⟩

/-- A channel that is open has its readers woken exactly when no reader clears the event late. -/
theorem readers_are_woken_iff (moves : List Move) :
    AlwaysWoken ⟨[], false, false, .outside⟩ moves ↔
      NeverClearsLate ⟨[], false, false, .outside⟩ moves :=
  alwaysWoken_iff moves ⟨fun h => absurd rfl h, fun _ => rfl⟩

/-- The message comes between the peek and the clear: it waits, and the event is not set. -/
theorem message_waits_without_event :
    [Move.peek 16, .enqueue [1], .set, .clear].foldlM Reading.step ⟨[], false, false, .outside⟩ =
      some ⟨[[1]], false, false, .outside⟩ ∧ ¬ Woken ⟨[[1]], false, false, .outside⟩ :=
  ⟨by decide, fun h => Bool.false_ne_true (h (by decide) rfl)⟩

end neutrinordp.svc
