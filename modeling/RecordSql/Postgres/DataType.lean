/-!
# Data types of the database server

The types whose binary form this library reads; every other type is known by its name only.
-/

namespace RecordSql.Postgres

/-- A data type. -/
inductive DataType where
  | bool
  /-- A single byte, read as a small integer. -/
  | char
  | int2
  | int4
  | int8
  /-- An object identifier: an unsigned integer of four bytes. -/
  | oid
  | float4
  | float8
  | bytea
  | text
  | varchar
  | bpchar
  | name
  | unknown
  /-- A type without a reading. -/
  | other (typeName : String)
deriving DecidableEq, Repr

namespace DataType

/-- The type with the given name. -/
def ofName : String → DataType
  | "bool" => bool
  | "char" => char
  | "int2" => int2
  | "int4" => int4
  | "int8" => int8
  | "oid" => oid
  | "float4" => float4
  | "float8" => float8
  | "bytea" => bytea
  | "text" => text
  | "varchar" => varchar
  | "bpchar" => bpchar
  | "name" => name
  | "unknown" => unknown
  | typeName => other typeName

end DataType

end RecordSql.Postgres
