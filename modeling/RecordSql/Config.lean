import RecordSql.Template
import RecordSql.Text.Blank

/-!
# Configuration

A configuration is a dialect and the sigil of parameters.  A sigil that is a name character would never
end a name, and white space is everywhere in a text, so neither is usable.
-/

namespace RecordSql

/-- How a handle talks to its database. -/
structure Config where
  dialect : Dialect
  sigil : Char
deriving DecidableEq, Repr

instance : Inhabited Config := ⟨⟨default, defaultSigil⟩⟩

namespace Config

/-- Whether a character can introduce parameters. -/
def isUsable (sigil : Char) : Bool :=
  !isNameChar sigil && !Text.isBlank sigil

/-- Refuses a sigil that is not usable. -/
def validate (c : Config) : Except Fault Unit :=
  if isUsable c.sigil then .ok ()
  else .error (.config (.unusableSigil c.sigil))

end Config

end RecordSql
