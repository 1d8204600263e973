import Herald.Text.Occurrence

/-!
# Addresses of sockets

A socket can be opened at an address `ws://…` or `wss://…`, in lower case, whose authority names a
host. Nothing in it is repaired: a character that may not stand in its part makes the address
unusable.
-/

namespace Herald.WebSocket

/-- What an authority has shown so far. -/
structure Authority where
  /-- The colons since the last `@` or closing bracket. -/
  colons : Nat := 0
  opened : Bool := false
  closed : Bool := false
  /-- Whether a `%` has stood since the last `@` or closing bracket. -/
  escaped : Bool := false
  deriving Repr, DecidableEq

namespace Authority

/-- How many colons may stand in a row of groups. -/
def colonLimit : Nat := 8

/-- A character that may stand anywhere in an authority. -/
def isPlain (c : Char) : Bool :=
  c.isAlphanum || "!$&'()*+,-.;=_~".toList.contains c

/-- Goes on by a character; absent if it may not stand there. -/
def next? (a : Authority) (c : Char) : Option Authority :=
  match c with
  | ':' => if a.colons < colonLimit then some { a with colons := a.colons + 1 } else none
  | '[' => if a.escaped || a.opened then none else some { a with opened := true }
  | ']' =>
    if a.opened && !a.closed then some { a with closed := true, colons := 0, escaped := false }
    else none
  | '@' => some { a with colons := 0, escaped := false }
  | '%' => some { a with escaped := true }
  | c => if isPlain c then some a else none

/-- Whether an authority can end here: its brackets are closed, at most one colon stands behind the
host, and no escape in the host. -/
def isComplete (a : Authority) : Bool :=
  a.opened == a.closed && a.colons ≤ 1 && !a.escaped

/-- Whether a text is an authority that names a host. -/
def names (text : List Char) : Bool :=
  let host := (text.reverse.takeWhile (· ≠ '@')).reverse
  (text.foldlM next? {}).any isComplete && !host.isEmpty && host.head? ≠ some ':'

end Authority

/-- A character of a path. -/
def isPathChar (c : Char) : Bool :=
  ' ' < c && !(['<', '>', '\x60'].contains c)

/-- A character of a query. -/
def isQueryChar (c : Char) : Bool :=
  ' ' < c && !(['<', '>', '"'].contains c)

/-- The longest address of a socket, in bytes. -/
def addressLimit : Nat := 65534

/-- Whether a socket can be opened at an address. What stands behind a `#` does not count. -/
def canOpen (address : String) : Bool :=
  match scheme? address.toList with
  | none => false
  | some rest =>
    let rest := rest.takeWhile (· ≠ '#')
    let isEnd (c : Char) : Bool := c = '/' || c = '?'
    let target := rest.dropWhile (!isEnd ·)
    address.utf8ByteSize ≤ addressLimit
      && Authority.names (rest.takeWhile (!isEnd ·))
      && (target.takeWhile (· ≠ '?')).all isPathChar
      && ((target.dropWhile (· ≠ '?')).drop 1).all isQueryChar
where
  /-- What follows the scheme and the slashes. -/
  scheme? (text : List Char) : Option (List Char) :=
    (Text.afterPrefix? "ws://".toList text).or (Text.afterPrefix? "wss://".toList text)

end Herald.WebSocket
