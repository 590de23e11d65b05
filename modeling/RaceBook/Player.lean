import RaceBook.Store.Standing

/-!
# Players

A player is known by a public key of 64 hexadecimal digits; upper and lower case are the same. A
line end behind the key is let through and kept.

* `Session.player` : the player of a number;
* `Session.register` : the player of a key, entered with a first standing when the key is new.
-/

namespace RaceBook

def isHexDigit (c : Char) : Bool :=
  c.isDigit || ('a' ≤ c && c ≤ 'f') || ('A' ≤ c && c ≤ 'F')

/-- Whether a text is a key: 64 hexadecimal digits, and at most a line end behind them. -/
def isPublicKey (text : String) : Bool :=
  let key := text.toList.take 64
  let rest := text.toList.drop 64
  key.length = 64 && key.all isHexDigit && (rest = [] || rest = ['\n'])

namespace Session

variable {R : Type}

def player (id : Int) : Session R (Row (Player R)) := do
  demand ((← get).players.find? id) (.notFound (.player id))

/-- The player of a key. Their name is what was last reported; a new key enters a player with
the given standing. -/
def register [Arithmetic R] (publicKey displayName : String) (initial : Standing R) :
    Session R (Row (Player R)) := do
  check (isPublicKey publicKey) (.invalid (.publicKey publicKey))
  let key := publicKey.toLower
  match (← get).players.rows.find? (·.data.publicKey = key) with
  | some known =>
    modify fun book =>
      { book with players := book.players.modify known.id ({ · with displayName }) }
    return ⟨known.id, { known.data with displayName }⟩
  | none =>
    checkPlayer initial
    let id := (← get).players.nextId
    modify fun book =>
      { book with players := book.players.append ⟨key, displayName, initial.stored, none⟩ }
    return ⟨id, ⟨key, displayName, initial, none⟩⟩

end Session

end RaceBook
