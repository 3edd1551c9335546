import RecordSql.Config
import RecordSql.Log

/-!
# Handles

A handle is a configuration and a logger.  A handle can only be changed to a configuration that is
usable, so every handle has a usable sigil.
-/

namespace RecordSql

/-- A configuration and a logger. -/
structure Handle where
  config : Config
  logger : Logger
deriving DecidableEq, Repr

namespace Handle

/-- The handle with the usual configuration and logger. -/
def initial : Handle := ⟨default, .standard⟩

/-- The handle with another configuration. -/
def withConfig (h : Handle) (c : Config) : Except Fault Handle := do
  c.validate
  return { h with config := c }

/-- The handle with another dialect. -/
def withDialect (h : Handle) (d : Dialect) : Handle :=
  { h with config := { h.config with dialect := d } }

/-- The handle with another sigil. -/
def withSigil (h : Handle) (sigil : Char) : Except Fault Handle :=
  h.withConfig { h.config with sigil := sigil }

/-- The handle with another logger. -/
def withLogger (h : Handle) (logger : Logger) : Handle :=
  { h with logger := logger }

/-- The name of a dialect in the text of a handle. -/
def dialectLabel : Dialect → String
  | .sqlite => "Sqlite"
  | .mysql => "MySql"
  | .postgres => "Postgres"

/-- The text of a handle on the given client. -/
def display (h : Handle) (client : String) : String :=
  "Db \x7b client: " ++ client ++ ", config: DbConfig \x7b dialect: " ++ dialectLabel h.config.dialect
    ++ ", param_prefix: " ++ Text.quoteChar h.config.sigil ++ " \x7d, .. \x7d"

end Handle

end RecordSql
