import WorkerAdvisor.Pattern
import WorkerAdvisor.Text.Blank
import WorkerAdvisor.Text.Occurs

/-!
Signals in the source text of a Worker.

A signal is found by patterns and substrings alone; the source is not parsed. Some signals report what is
present (a reference to a module, a blocking call, a timer, shared state, a handler that takes only the
request), some what is absent (a default export, a fetch handler), and some that one thing is present
without another (asynchronous work without error handling, a result without a response, awaited work that
could be deferred).
-/

set_option autoImplicit false

namespace WorkerAdvisor

namespace Pattern

/-! ### Pieces of source text -/

def blanks : Pattern := many Text.isBlank

def blanks1 : Pattern := many1 Text.isBlank

/-- One of several words, not inside a longer word. -/
def wholeWord (first : String) (others : List String) : Pattern :=
  sequence [wordBoundary, anyOf (literal first) (others.map literal), wordBoundary]

/-- A word that begins here. -/
def wordFrom (content : String) : Pattern := followedBy wordBoundary (literal content)

end Pattern

namespace Source

open Pattern

/-- A character that an identifier can begin with. -/
def isIdentifierStart (c : Char) : Bool := c.isAlpha || c == '_' || c == '$'

/-- A character that an identifier can go on with. -/
def isIdentifierPart (c : Char) : Bool := Text.isWordChar c || c == '$'

def isAnnotationPart (c : Char) : Bool :=
  Text.isWordChar c || c == '$' || c == '.' || c == '<' || c == '>' || c == '[' || c == ']'

/-- A character of the result type of a method: anything but an opening brace, `;` and `=`. -/
def isMethodResultPart (c : Char) : Bool := c != '\x7b' && c != ';' && c != '='

/-- A character of the result type of an arrow function: anything but `=` and `;`. -/
def isArrowResultPart (c : Char) : Bool := c != '=' && c != ';'

def identifier : Pattern := followedBy (single isIdentifierStart) (many isIdentifierPart)

def parameter : Pattern :=
  followedBy identifier (optional (sequence [blanks, literal ":", blanks, many1 isAnnotationPart]))

/-- One parameter in parentheses. -/
def singleParameter : Pattern :=
  sequence [literal "(", blanks, parameter, blanks, literal ")"]

/-- A call of the function `fetch`, or the head of a method of that name. -/
def fetchCall : Pattern := sequence [wordFrom "fetch", blanks, literal "("]

/-- The head of a `fetch` method with one parameter, up to the brace that opens its body. -/
def singleParameterMethod : Pattern :=
  sequence [
    optional (sequence [wordFrom "async", blanks1]),
    wordFrom "fetch", blanks, singleParameter, blanks,
    optional (sequence [literal ":", blanks, many1 isMethodResultPart]),
    blanks, literal "\x7b"]

/-- A `fetch` property that holds an arrow function with one parameter, up to the arrow. -/
def singleParameterArrow : Pattern :=
  sequence [
    wordFrom "fetch", blanks, literal ":", blanks,
    optional (sequence [literal "async", blanks]),
    either singleParameter identifier, blanks,
    optional (sequence [literal ":", blanks, many1 isArrowResultPart]),
    blanks, literal "=>"]

def response : Pattern :=
  either
    (sequence [wordFrom "new", blanks1, literal "Response", blanks, literal "("])
    (sequence [
      wordFrom "Response", literal ".",
      anyOf (literal "json") [literal "redirect", literal "error"], blanks, literal "("])

/-- A declaration with `let` or `var` at the start of a line. -/
def topLevelDeclaration : Pattern :=
  sequence [lineStart, anyOf (literal "let") [literal "var"], blanks1, single isIdentifierStart]

/-- A module name between two quotes of the same kind, perhaps with the scheme `node:`. -/
def specifier (module : String) (quote : Char) : Pattern :=
  sequence [single (· == quote), optional (literal "node:"), literal module, single (· == quote)]

/-- An import or a call of `require` for a module. The name is taken literally. -/
def moduleReference (module : String) : Pattern :=
  sequence [
    anyOf (wordFrom "from") [wordFrom "import", wordFrom "require"],
    blanks, optional (literal "("), blanks,
    either (specifier module '\'') (specifier module '"')]

end Source

/-- What the source of a Worker can be searched for. -/
inductive Signal
  | moduleReference (module : String)
  /-- A blocking file or process call. -/
  | blockingCall
  | timer
  | defaultExport
  /-- A top-level variable beside a default export. -/
  | sharedState
  /-- Asynchronous code, and nothing that catches its failures. -/
  | unhandledFailure
  | noDefaultExport
  | noFetchHandler
  /-- A fetch handler that takes only the request. -/
  | requestOnlyHandler
  /-- A result is returned, and no response is made. -/
  | noResponse
  /-- Work is awaited, and none deferred. -/
  | noDeferredWork
  deriving DecidableEq, Repr

namespace Signal

open Pattern Source

/-- Whether a signal is found in the characters of a source. -/
def holds (signal : Signal) (code : List Char) : Bool :=
  match signal with
  | moduleReference module => (Source.moduleReference module).occursIn code
  | blockingCall =>
    (wholeWord "readFileSync" ["writeFileSync", "appendFileSync", "existsSync", "readdirSync", "mkdirSync",
      "statSync", "unlinkSync", "execSync", "execFileSync", "spawnSync"]).occursIn code
  | timer => (wholeWord "setTimeout" ["setInterval"]).occursIn code
  | defaultExport => Text.occursIn "export default".toList code
  | sharedState => topLevelDeclaration.occursIn code && Text.occursIn "export default".toList code
  | unhandledFailure =>
    (wholeWord "async" []).occursIn code && !(wholeWord "try" []).occursIn code &&
      !(wholeWord "catch" []).occursIn code
  | noDefaultExport => !Text.occursIn "export default".toList code
  | noFetchHandler => !fetchCall.occursIn code
  | requestOnlyHandler => singleParameterMethod.occursIn code || singleParameterArrow.occursIn code
  | noResponse => (wholeWord "return" []).occursIn code && !response.occursIn code
  | noDeferredWork => (wholeWord "await" []).occursIn code && !Text.occursIn "waitUntil".toList code

/-- Whether a signal is found in a source. -/
def detects (signal : Signal) (code : String) : Bool := signal.holds code.toList

end Signal

end WorkerAdvisor
