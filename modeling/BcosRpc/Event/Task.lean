import BcosRpc.Event.Params

/-!
# Subscription tasks

A `Subscription` is what a subscription request asks for. The `EventSubTask` built for it
adds the state that records the next block to process, and the flag set while a batch of
blocks is processed.
-/

/-- The progress of a task: the next block to process, negative when none has been
processed. -/
structure EventSubTaskState where
  currentBlockNumber : Int := -1
  deriving DecidableEq, Repr

/-- The recorded block number only grows. -/
def EventSubTaskState.setCurrentBlockNumber (state : EventSubTaskState)
    (currentBlockNumber : Int) : EventSubTaskState :=
  if currentBlockNumber > state.currentBlockNumber then ⟨currentBlockNumber⟩ else state

theorem EventSubTaskState.currentBlockNumber_set (state : EventSubTaskState) (n : Int) :
  (state.setCurrentBlockNumber n).currentBlockNumber = max state.currentBlockNumber n
  := by
  rw [setCurrentBlockNumber]
  split
  · show n = max state.currentBlockNumber n
    omega
  · omega

/-- What a decoded subscription request of a session asks for. -/
structure Subscription where
  id : String
  group : String
  session : WsSession
  params : EventSubParams

/-- A task. Its callback pushes to the session `session`. -/
structure EventSubTask extends Subscription where
  state : EventSubTaskState := {}
  work : Bool := false

namespace EventSubTask

def setWork (task : EventSubTask) (work : Bool) : EventSubTask :=
  { task with work := work }

def setCurrentBlockNumber (task : EventSubTask) (n : Int) : EventSubTask :=
  { task with state := task.state.setCurrentBlockNumber n }

/-- Whether every block up to the last one requested is processed; never when no last block
is requested. -/
def isCompleted (task : EventSubTask) : Bool :=
  if task.params.toBlock < 0 then false
  else task.state.currentBlockNumber > task.params.toBlock

end EventSubTask
