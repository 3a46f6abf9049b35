set_option autoImplicit false

namespace Terminator

inductive TokenKind where
  | automaticSemicolon
  deriving DecidableEq, Repr

namespace TokenKind

def all : List TokenKind := [.automaticSemicolon]

def index : TokenKind → Nat
  | .automaticSemicolon => 0

def describe : TokenKind → String
  | .automaticSemicolon => "automatic semicolon"

def variant : TokenKind → String
  | .automaticSemicolon => "AutomaticSemicolon"

end TokenKind

structure TokenSet where
  automaticSemicolon : Bool
  deriving DecidableEq, Repr

namespace TokenSet

def empty : TokenSet := ⟨false⟩

def contains (set : TokenSet) : TokenKind → Bool
  | .automaticSemicolon => set.automaticSemicolon

def insert (set : TokenSet) : TokenKind → TokenSet
  | .automaticSemicolon => { set with automaticSemicolon := true }

def erase (set : TokenSet) : TokenKind → TokenSet
  | .automaticSemicolon => { set with automaticSemicolon := false }

def singleton (kind : TokenKind) : TokenSet :=
  empty.insert kind

def all : TokenSet :=
  TokenKind.all.foldl insert empty

def isEmpty (set : TokenSet) : Bool :=
  TokenKind.all.all fun kind => !set.contains kind

-- A missing flag counts as false, and a flag past the last kind is ignored.
def ofFlags (flags : List Bool) : TokenSet :=
  (TokenKind.all.filter fun kind => flags.getD kind.index false).foldl insert empty

theorem contains_ofFlags (flags : List Bool) (kind : TokenKind) :
    (ofFlags flags).contains kind = flags.getD kind.index false := by
  cases kind
  cases flag : flags.getD TokenKind.automaticSemicolon.index false <;>
    simp_all [ofFlags, TokenKind.all, contains, insert, empty]

end TokenSet

end Terminator
