import MixerPanel.Browser.Socket
import MixerPanel.Config
import MixerPanel.Context
import MixerPanel.View.Markup

/-!
# The browser

The page that the panel runs in, with all that a page has: an address, elements, sockets, timers,
listeners and a log. What the panel puts there, links to the daemon and roots that are mounted, is
named by its place in the order of its making.

## Main Definitions

* `Elements` — which selectors match what
* `DaemonLink` — a link to the daemon: a session and a context that hold on to a socket
* `Timer` — a link that waits to be opened again
* `MountedRoot` — what is shown in an element
* `Browser` — all of it

## Design Notes

Every context comes with its link, so the contexts of a page are those of its links.
-/

namespace MixerPanel

/-- Which selectors match what. -/
structure Elements where
  /-- The selectors that match an element which something can be mounted on. -/
  html : List String
  /-- The selectors that match any other element. -/
  other : List String
  /-- The texts that are no selectors. -/
  invalid : List String
deriving DecidableEq, Repr

namespace Elements

/-- Whether a selector matches an element that something can be mounted on. -/
def isHtml (e : Elements) (selector : String) : Bool :=
  !e.invalid.contains selector && e.html.contains selector

/-- Whether a selector matches any element. -/
def has (e : Elements) (selector : String) : Bool :=
  e.isHtml selector || (!e.invalid.contains selector && e.other.contains selector)

end Elements

/-- A link to the daemon. -/
structure DaemonLink where
  url : String
  /-- The delay in milliseconds before it is opened again. -/
  delay : UInt32
  session : Session
  context : Context
  /-- The place of the socket that it holds on to among the sockets of the browser. Events of other
  sockets do not reach it. -/
  socket : Option Nat

/-- A link with the context of an application, before it is opened. -/
def DaemonLink.ofApplication (url : String) (delay : UInt32) (app : Application) : DaemonLink :=
  ⟨url, delay, .empty, .ofApplication app, none⟩

/-- A link that waits to be opened again. -/
structure Timer where
  /-- In milliseconds. -/
  delay : UInt32
  /-- The place of the link. -/
  link : Nat
deriving DecidableEq, Repr

/-- What is shown in an element. -/
structure MountedRoot where
  selector : String
  content : List Html
deriving Repr

/-- The page that the panel runs in. -/
structure Browser where
  /-- The protocol in the address, with its colon. -/
  protocol : String
  /-- The host in the address. -/
  host : String
  /-- The query in the address, decoded. -/
  query : List (String × String)
  /-- The fragment of the address, with its mark. -/
  hash : String
  elements : Elements
  /-- The addresses of which no socket can be made. -/
  refused : List String
  /-- Whether the panel was started. -/
  started : Bool
  /-- Which log lines are kept. -/
  filter : Log.Filter
  log : List Log.Line
  links : List DaemonLink
  sockets : List WebSocket
  /-- The timers that have not fired, in the order in which they were set. -/
  timers : List Timer
  /-- The places of the links whose routes follow the fragment. -/
  hashListeners : List Nat
  /-- The place of the link whose devices were listed last in a device selector. -/
  selector : Option Nat
  roots : List MountedRoot

namespace Browser

/-- A page in which nothing was started. -/
def fresh (protocol host : String) (query : List (String × String)) (hash : String)
    (elements : Elements) (refused : List String) : Browser :=
  { protocol, host, query, hash, elements, refused, started := false, filter := .off, log := [],
    links := [], sockets := [], timers := [], hashListeners := [], selector := none, roots := [] }

/-- Takes log lines, of which those that are wanted are kept. -/
def noteAll (b : Browser) (lines : List Log.Line) : Browser :=
  { b with log := b.log ++ lines.filter b.filter.wants }

/-- Takes a log line. -/
def note (b : Browser) (line : Log.Line) : Browser := b.noteAll [line]

/-- Changes the link at a place. -/
def modifyLink (b : Browser) (i : Nat) (change : DaemonLink → DaemonLink) : Browser :=
  { b with links := b.links.modify i change }

/-- Changes the context of the link at a place. -/
def modifyContext (b : Browser) (i : Nat) (change : Context → Context) : Browser :=
  b.modifyLink i fun link => { link with context := change link.context }

/-- Sets the state of the link at a place. -/
def setConnection (b : Browser) (i : Nat) (state : ConnectionState) : Browser :=
  b.modifyContext i fun c => { c with connection := state }

/-- The current context, that of the latest link. -/
def context? (b : Browser) : Option Context := b.links.getLast?.map DaemonLink.context

/-- The socket that the link at a place holds on to. -/
def socketOf? (b : Browser) (i : Nat) : Option Nat := b.links[i]?.bind DaemonLink.socket

/-- The sockets that are open or being opened. -/
def liveSockets (b : Browser) : List WebSocket := b.sockets.filter WebSocket.isLive

/-- Puts a new link into place, and tells where. -/
def addLink (b : Browser) (link : DaemonLink) : Browser × Nat :=
  ({ b with links := b.links ++ [link] }, b.links.length)

end Browser

end MixerPanel
