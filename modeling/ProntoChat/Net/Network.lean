import ProntoChat.Core.Transition
import ProntoChat.Daemon.Ipc

/-!
# Two daemons and the network between them

The datagrams of one daemon wait in its list of datagrams until the network
carries one of them to the other.  The network may lose, copy and reorder
them; a network that keeps the order always carries the oldest.
-/

namespace ProntoChat.Net

open ProntoChat.Daemon
open ProntoChat.Ice

inductive Side where
  | left
  | right
  deriving DecidableEq

def Side.other : Side → Side
  | .left => .right
  | .right => .left

@[simp]
theorem Side.other_other (side : Side) : side.other.other = side := by
  cases side <;> rfl

@[simp]
theorem Side.other_ne (side : Side) : side.other ≠ side := by
  cases side <;> decide

@[simp]
theorem Side.ne_other (side : Side) : side ≠ side.other :=
  (side.other_ne).symm

theorem Side.eq_or_eq_other (side actor : Side) : actor = side ∨ actor = side.other := by
  cases side <;> cases actor <;> decide

abbrev Pair := Side → ChatdState

inductive PairEvent where
  /-- A daemon handles an event of its own. -/
  | act (side : Side) (env : Env) (event : ChatdEvent)
  /-- A datagram of the other daemon arrives. -/
  | arrive (side : Side) (index : ℕ)
  /-- A datagram of a daemon is lost. -/
  | lose (side : Side) (index : ℕ)
  /-- A datagram of a daemon is copied. -/
  | copy (side : Side) (index : ℕ)

def pairStep (sodium : Sodium) (pair : Pair) : PairEvent → Pair
  | .act side env event =>
      Function.update pair side (chatdStep sodium (pair side) (env, event))
  | .arrive side index =>
      let sender := pair side.other
      match sender.datagrams[index]? with
      | none => pair
      | some packet =>
          Function.update
            (Function.update pair side.other
              { sender with datagrams := sender.datagrams.eraseIdx index })
            side (serviceIceCallback (pair side) (.recv packet))
  | .lose side index =>
      Function.update pair side
        { pair side with datagrams := (pair side).datagrams.eraseIdx index }
  | .copy side index =>
      Function.update pair side
        { pair side with
          datagrams :=
            (pair side).datagrams ++ (pair side).datagrams[index]?.toList }

end ProntoChat.Net
