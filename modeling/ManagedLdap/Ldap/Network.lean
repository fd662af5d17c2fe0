/-
# ManagedLdap.Ldap.Network -- servers, connections and what was sent over them

A network is what a client can tell of it: which addresses answer, what an address reports
that does not, and for every connection that was made what has been sent, what the server will
answer next, whether it is still open and how many holders it has.  The attempts to connect are
kept too, with the socket factory each of them was given and the settings that it left.  So is the
library that reads what arrives, which every connection takes over from the network it is made in.
-/
import ManagedLdap.Ldap.Library
import ManagedLdap.SocketFactory

namespace ManagedLdap

set_option autoImplicit false

/-- A connection, by its place among those that were made. -/
abbrev LinkId := Nat

/-- A connection. -/
structure Link where
  /-- The address of the server. -/
  address : String
  /-- The replies of the server that are still to come. -/
  script : List ServerReply
  /-- What has been sent, in order. -/
  sent : List SentRequest
  /-- Whether the server still listens. -/
  isOpen : Bool
  /-- How many contexts and cursors hold the connection. -/
  shares : Nat
  /-- What reads the messages that arrive over it. -/
  library : Library := .standard

/-- An attempt to connect. -/
structure Dial where
  url : String
  /-- The socket factory that configured the attempt. -/
  factory : Option SocketFactory
  /-- The settings that the factory left. -/
  settings : ConnSettings
  deriving DecidableEq

namespace Dial

/-- An attempt with these settings, once the factory in effect has configured them. -/
def configured (url : String) (factory : Option SocketFactory) (settings : ConnSettings) : Dial :=
  ⟨url, factory, SocketFactory.configured factory settings⟩

/-- Whether encryption was to be requested on the plain connection. -/
def startTls (d : Dial) : Bool := d.settings.startTls

@[simp] theorem configured_startTls (url : String) (factory : Option SocketFactory)
    (settings : ConnSettings) : (configured url factory settings).startTls = settings.startTls :=
  SocketFactory.configured_startTls factory settings

end Dial

/-- A server that accepts connections: the replies for each one to come. -/
structure Listener where
  address : String
  scripts : List (List ServerReply)

/-- The network as a client sees it. -/
structure Network where
  listeners : List Listener := []
  /-- What connecting to any other address reports. -/
  refusal : String
  links : List Link := []
  dials : List Dial := []
  /-- The addresses where nothing is reported either. -/
  silent : List String := []
  /-- What connecting to a local socket reports. -/
  socketFault : String → String := fun _ => refusal
  /-- What reads the messages of the connections to come. -/
  library : Library := .standard

namespace Network

/-- A network where unused addresses refuse connections. -/
def loopback (listeners : List Listener) : Network :=
  { listeners := listeners, refusal := "Connection refused (os error 111)" }

/-- A network without a route to any address. -/
def isolated : Network := { refusal := "Network is unreachable (os error 101)" }

/-- Where a client runs: on a host that can reach itself, or on one without any network. -/
inductive Host where
  | loopback
  | isolated
  deriving DecidableEq, Repr

/-- The network of a host where these servers run.  A host without any network can run
none. -/
def ofHost : Host → List Listener → Option Network
  | .loopback, listeners => some (loopback listeners)
  | .isolated, [] => some isolated
  | .isolated, _ => none

/-- Remember an attempt to connect. -/
def recordDial (n : Network) (dial : Dial) : Network := { n with dials := n.dials ++ [dial] }

/-- Connect to an address.  The next script of its server, if there is one left, becomes
that of the connection. -/
def accept (n : Network) (address : String) : Option (LinkId × Network) :=
  match n.listeners.find? fun l => l.address == address with
  | none => none
  | some listener =>
      let link : Link :=
        { address := address, script := listener.scripts.headD [], sent := [], isOpen := true,
          shares := 1, library := n.library }
      some (n.links.length, {
        n with
        links := n.links ++ [link]
        listeners := n.listeners.map fun l =>
          if l.address = address then { l with scripts := l.scripts.drop 1 } else l })

/-- Change one connection. -/
def modifyLink (n : Network) (id : LinkId) (f : Link → Link) : Network :=
  { n with links := n.links.modify id f }

/-- One connection. -/
def link? (n : Network) (id : LinkId) : Option Link := n.links[id]?

/-- Whether a connection takes requests. -/
def isOpen (n : Network) (id : LinkId) : Bool :=
  match n.link? id with
  | some l => l.isOpen
  | none => false

/-- How many requests a connection has taken. -/
def sentCount (n : Network) (id : LinkId) : Nat :=
  match n.link? id with
  | some l => l.sent.length
  | none => 0

/-- How many replies a connection has left. -/
def repliesLeft (n : Network) (id : LinkId) : Nat :=
  match n.link? id with
  | some l => l.script.length
  | none => 0

/-- What reads the messages of a connection. -/
def reader (n : Network) (id : LinkId) : Library :=
  match n.link? id with
  | some l => l.library
  | none => .standard

/-- How many holders a connection has. -/
def shares (n : Network) (id : LinkId) : Nat :=
  match n.link? id with
  | some l => l.shares
  | none => 0

/-- The next reply of a connection: plain success when none is left. -/
def nextReply (n : Network) (id : LinkId) : ServerReply :=
  match n.link? id with
  | some l => l.script.headD {}
  | none => {}

/-- Append a request to what was sent. -/
def send (n : Network) (id : LinkId) (request : SentRequest) : Network :=
  n.modifyLink id fun l => { l with sent := l.sent ++ [request] }

/-- Take the next reply away; the connection may be closed with it. -/
def takeReply (n : Network) (id : LinkId) (closes : Bool) : Network :=
  n.modifyLink id fun l => { l with script := l.script.drop 1, isOpen := l.isOpen && !closes }

/-- Close a connection. -/
def shut (n : Network) (id : LinkId) : Network :=
  n.modifyLink id fun l => { l with isOpen := false }

/-- How many messages the replies of a connection still hold, each counted with its
result. -/
def backlog (n : Network) (id : LinkId) : Nat :=
  match n.link? id with
  | some l => l.script.foldr (fun r later => r.messages.length + 1 + later) 0
  | none => 0

/-- One more holder of a connection. -/
def hold (n : Network) (id : LinkId) : Network :=
  n.modifyLink id fun l => { l with shares := l.shares + 1 }

/-- One holder less. -/
def letGo (n : Network) (id : LinkId) : Network :=
  n.modifyLink id fun l => { l with shares := l.shares - 1 }

end Network

end ManagedLdap
