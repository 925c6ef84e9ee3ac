/-!
Tokens of a YAML text, and the queue in which they wait to be taken.

Tokens are numbered in the order in which they are taken. The queue keeps them in a row of slots.
When the last slot is used up, the tokens that wait move to the front, into the slots of those that
were taken; if none was taken, there will be twice as many slots.
-/

namespace CoeffectSolver.Yaml

/-- The kinds of token. -/
inductive TokenKind where
  | streamStart
  | streamEnd
  | documentStart
  | documentEnd
  | blockSequenceStart
  | blockMappingStart
  | blockEnd
  | blockEntry
  | flowSequenceStart
  | flowSequenceEnd
  | flowMappingStart
  | flowMappingEnd
  | flowEntry
  | key
  | value
  | alias (name : String)
  | anchor (name : String)
  | scalar (text : String) (plain : Bool)
  deriving DecidableEq, Repr

/-- A token and the line it starts on. -/
structure Token where
  kind : TokenKind
  line : Nat
  deriving DecidableEq, Repr

/-- Tokens that wait to be taken. -/
structure TokenQueue where
  tokens : Array Token
  /-- The slot of the first token that waits. -/
  slot : Nat
  /-- The number of slots. -/
  capacity : Nat
  /-- The number of tokens taken so far, which is the number of the first token that waits. -/
  taken : Nat

namespace TokenQueue

/-- The queue without any slots. -/
def empty : TokenQueue where
  tokens := #[]
  slot := 0
  capacity := 0
  taken := 0

/-- The number of the token that comes next to the end of the queue. -/
def nextNumber (queue : TokenQueue) : Nat := queue.taken + queue.tokens.size

/-- Makes sure that there is a slot behind the last token. -/
def makeRoom (queue : TokenQueue) : TokenQueue :=
  if queue.slot + queue.tokens.size < queue.capacity then queue
  else if queue.slot = 0 then { queue with capacity := max 1 (2 * queue.capacity) }
  else { queue with slot := 0 }

/-- Appends a token. -/
def push (queue : TokenQueue) (token : Token) : TokenQueue :=
  { queue.makeRoom with tokens := queue.tokens.push token }

/-- Inserts a token in front of the token with a number. If that was taken already, the new token
goes to the end. -/
def insert (queue : TokenQueue) (number : Nat) (token : Token) : TokenQueue :=
  if number < queue.taken then queue.push token
  else
    { queue.makeRoom with
      tokens := queue.tokens.insertIdxIfInBounds (number - queue.taken) token }

/-- Takes the first token out of the queue. -/
def tail (queue : TokenQueue) : TokenQueue :=
  { queue with
    tokens := queue.tokens.extract 1 queue.tokens.size
    slot := queue.slot + 1
    taken := queue.taken + 1 }

/-- The token that waits in a slot. -/
def inSlot? (queue : TokenQueue) (slot : Nat) : Option Token :=
  if slot < queue.slot then none else queue.tokens[slot - queue.slot]?

end TokenQueue
end CoeffectSolver.Yaml
