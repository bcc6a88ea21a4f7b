import Console.Flavor
import Console.History
import Console.Observers
import Console.Session.Event
import Console.Store.Basic
import Console.Transcript

/-! Sessions: a transcript, a command history and an evaluator together. An expression is recorded
    first, then it is a special command or goes to the evaluator, and its answer is added to the
    transcript. A store that fails is reported in the log and nowhere else, so a session goes on. -/

namespace Console

/-- Answers an expression with a result or with the text of an error. The surroundings, of which the
    store is a part, may change under it. -/
abbrev Evaluator (σ : Type) := Text → σ → Except Text Text × σ

/-- An evaluator that knows nothing but the expression. -/
def Evaluator.pure {σ : Type} (answer : Text → Except Text Text) : Evaluator σ :=
  fun expression store => (answer expression, store)

/-- An evaluator over a store with switches, which do not switch the evaluator off. -/
def Evaluator.switched {σ : Type} (e : Evaluator σ) : Evaluator (Switched σ) :=
  fun expression s => ((e expression s.store).1, { s with store := (e expression s.store).2 })

/-- The state of one session. -/
structure Session where
  flavor : Flavor
  transcript : Transcript
  history : History
  /-- The result of the latest evaluation that had one. -/
  lastOutput : Option Text
  /-- The buffer size while none is stored. -/
  defaultSize : Nat
  deriving DecidableEq, Repr

/-- A session with its store and the events so far, in order. -/
structure Running (σ : Type) where
  session : Session
  store : σ
  events : List Event

namespace Session

variable {σ : Type} [Store σ]

/-- Loads the history of a title: first the size, then the commands. -/
def loadHistory (title : Text) (defaultSize : Nat) (store : σ) : Call σ History :=
  match Store.loadSize store with
  | (.error e, store) => (.error e, store)
  | (.ok size, store) =>
    match Store.loadHistory store title with
    | (.error e, store) => (.error e, store)
    | (.ok entries, store) =>
      (.ok (History.ofEntries (entries.getD []) (size.getD defaultSize)), store)

/-- Opens a session, which loads its history. -/
def start (flavor : Flavor) (defaultSize : Nat) (store : σ) : Call σ Session :=
  match Transcript.new? flavor.title flavor.prompt with
  | .error e => (.error e, store)
  | .ok transcript =>
    match loadHistory flavor.title defaultSize store with
    | (.error e, store) => (.error e, store)
    | (.ok history, store) => (.ok ⟨flavor, transcript, history, none, defaultSize⟩, store)

/-- The event of opening. -/
def openedEvent (s : Session) : Event :=
  .opened s.flavor.title s.history.entries.length s.history.limit

end Session

namespace Running

variable {σ : Type} [Store σ]

/-- Adds an event. -/
def record (r : Running σ) (e : Event) : Running σ := { r with events := r.events ++ [e] }

/-- Changes the transcript. -/
def mapTranscript (r : Running σ) (f : Transcript → Transcript) : Running σ :=
  { r with session := { r.session with transcript := f r.session.transcript } }

/-- Changes the history. -/
def withHistory (r : Running σ) (h : History) : Running σ :=
  { r with session := { r.session with history := h } }

/-- Adds a block to the transcript. -/
def show_ (r : Running σ) (block : Text) : Running σ := r.mapTranscript (·.pushBlock block)

/-- Stores the history; a failure only goes to the log. -/
def persist (r : Running σ) : Running σ :=
  match Store.saveHistory r.store r.session.flavor.title r.session.history.entries with
  | (.ok (), store) => { r with store := store }
  | (.error e, store) => ({ r with store := store } : Running σ).record (.historyUnsaved e)

/-- Records a command in the history and stores it. -/
def addCommand (r : Running σ) (command : Text) : Running σ :=
  let (evicted, history) := r.session.history.push command
  let r := r.withHistory history
  let r := if evicted then r.record (.trimmed r.session.flavor.title history.limit) else r
  r.persist

/-- Changes the buffer size and stores it; the history is stored too if commands went. -/
def setBufferSize (r : Running σ) (size : Nat) : Running σ :=
  let (evicted, history) := r.session.history.setLimit size
  let r := r.withHistory history
  let r := match Store.saveSize r.store size with
    | (.ok (), store) => { r with store := store }
    | (.error e, store) => ({ r with store := store } : Running σ).record (.sizeUnsaved e)
  if evicted then r.persist else r

/-- Back to the preamble with an empty history, in the session and in the store. The history is
    loaded again at the end, which brings back the stored size. -/
def reset (r : Running σ) : Except Fault Unit × Running σ :=
  let r := (r.mapTranscript Transcript.reset).withHistory (.empty r.session.history.limit)
  let title := r.session.flavor.title
  match Store.saveHistory r.store title [] with
  | (.error e, store) => (.error e, { r with store := store })
  | (.ok (), store) =>
    match Session.loadHistory title r.session.defaultSize store with
    | (.error e, store) => (.error e, { r with store := store })
    | (.ok history, store) =>
      (.ok (), (({ r with store := store } : Running σ).withHistory history).record
        (.wasReset title))

/-- Runs a special command. -/
def runSpecial (r : Running σ) (command : Command) : Change × Running σ :=
  let r := r.record (.special command)
  match command with
  | .clear => (.cleared, r.mapTranscript Transcript.clear)
  | .reset =>
    match r.reset with
    | (.ok (), r) => (.reset, r)
    | (.error e, r) => (.reset, r.record (.resetFailed e))
  | .help => (.transcriptChanged, r.show_ Command.helpText)
  | .showBufferSize =>
    (.transcriptChanged, r.show_ ("Buffer size: ".toList ++ Text.ofNat r.session.history.limit))
  | .setBufferSize size =>
    (.bufferSizeChanged size,
      (r.setBufferSize size).show_ ("Buffer size set to ".toList ++ Text.ofNat size))

/-- Sends an expression to the evaluator and shows the answer. -/
def runExpression (evaluator : Evaluator σ) (r : Running σ) (expression : Text) : Running σ :=
  match evaluator expression r.store with
  | (.ok output, store) =>
    let r := ({ r with store := store } : Running σ).mapTranscript (·.pushResult output)
    { r with session := { r.session with lastOutput := some output } }
  | (.error message, store) =>
    (({ r with store := store } : Running σ).record (.failed expression message)).mapTranscript
      (·.pushError message)

/-- Records an expression and runs it. -/
def evaluate (evaluator : Evaluator σ) (r : Running σ) (expression : Text) : Change × Running σ :=
  let r := r.addCommand expression
  match Command.parse? expression with
  | some command => r.runSpecial command
  | none => (.transcriptChanged, r.runExpression evaluator expression)

/-- Takes over the text as the user left it, and evaluates its newest expression. -/
def commit (evaluator : Evaluator σ) (r : Running σ) (full : Text) : Change × Running σ :=
  let expression := r.session.transcript.extract full
  (r.mapTranscript (·.replace full)).evaluate evaluator expression

/-- Steps to an older command. -/
def previous (r : Running σ) : Option Text × Running σ :=
  (r.session.history.previous.1, r.withHistory r.session.history.previous.2)

/-- Steps to a newer command. -/
def next (r : Running σ) : Option Text × Running σ :=
  (r.session.history.next.1, r.withHistory r.session.history.next.2)

end Running

end Console
