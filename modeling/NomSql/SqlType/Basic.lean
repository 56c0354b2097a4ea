import NomSql.Literal.Display

/-!
# SqlType — the types and their text

`SqlType`, the column types of the grammar, and `impl fmt::Display for SqlType`, the
canonical text of each.  An `Enum` writes the texts of its variants, so its text is `none`
where one of theirs is.
-/

namespace NomSql

/-- `SqlType`. -/
inductive SqlType
  | bool
  | char (len : Option UInt16)
  | varchar (len : Option UInt16)
  | int (len : Option UInt16)
  | unsignedInt (len : Option UInt16)
  | bigint (len : Option UInt16)
  | unsignedBigint (len : Option UInt16)
  | tinyint (len : Option UInt16)
  | unsignedTinyint (len : Option UInt16)
  | smallint (len : Option UInt16)
  | unsignedSmallint (len : Option UInt16)
  | blob
  | longblob
  | mediumblob
  | tinyblob
  | double
  | float
  | real
  | numeric (precision : Option (UInt16 × Option UInt8))
  | tinytext
  | mediumtext
  | longtext
  | text
  | date
  | dateTime (len : Option UInt16)
  | time
  | timestamp
  | timestampTz
  | binary (len : Option UInt16)
  | varbinary (len : UInt16)
  | enum (variants : List Literal)
  | decimal (m d : UInt8)
  | json
  | jsonb
  | byteArray
  | macAddr
  | inet
  | uuid
  | bit (n : Option UInt16)
  | varbit (n : Option UInt16)
  | serial
  | bigSerial

/-- The `write_with_len` closure of `fmt`: the name, then `(len)` if there is one. -/
def writeWithLen (name : String) (len : Option UInt16) : Bytes :=
  ascii name ++ match len with
    | some len => ascii "(" ++ decimal len.toNat ++ ascii ")"
    | none => []

/-- `t.to_string()`, as bytes; `none` where the text of an `Enum` variant is. -/
def SqlType.fmt : SqlType → Option Bytes
  | .bool => some (ascii "BOOL")
  | .char len => some (writeWithLen "CHAR" len)
  | .varchar len => some (writeWithLen "VARCHAR" len)
  | .int len => some (writeWithLen "INT" len)
  | .unsignedInt len => some (writeWithLen "INT" len ++ ascii " UNSIGNED")
  | .bigint len => some (writeWithLen "BIGINT" len)
  | .unsignedBigint len => some (writeWithLen "BIGINT" len ++ ascii " UNSIGNED")
  | .tinyint len => some (writeWithLen "TINYINT" len)
  | .unsignedTinyint len => some (writeWithLen "TINYINT" len ++ ascii " UNSIGNED")
  | .smallint len => some (writeWithLen "SMALLINT" len)
  | .unsignedSmallint len => some (writeWithLen "SMALLINT" len ++ ascii " UNSIGNED")
  | .blob => some (ascii "BLOB")
  | .longblob => some (ascii "LONGBLOB")
  | .mediumblob => some (ascii "MEDIUMBLOB")
  | .tinyblob => some (ascii "TINYBLOB")
  | .double => some (ascii "DOUBLE")
  | .float => some (ascii "FLOAT")
  | .real => some (ascii "REAL")
  | .numeric precision => some <| match precision with
    | some (prec, some scale) =>
      ascii "NUMERIC(" ++ NomSql.decimal prec.toNat ++ ascii ", " ++
        NomSql.decimal scale.toNat ++ ascii ")"
    | some (prec, none) => ascii "NUMERIC(" ++ NomSql.decimal prec.toNat ++ ascii ")"
    | none => ascii "NUMERIC"
  | .tinytext => some (ascii "TINYTEXT")
  | .mediumtext => some (ascii "MEDIUMTEXT")
  | .longtext => some (ascii "LONGTEXT")
  | .text => some (ascii "TEXT")
  | .date => some (ascii "DATE")
  | .dateTime len => some (writeWithLen "DATETIME" len)
  | .time => some (ascii "TIME")
  | .timestamp => some (ascii "TIMESTAMP")
  | .timestampTz => some (ascii "TIMESTAMP WITH TIME ZONE")
  | .binary len => some (writeWithLen "BINARY" len)
  | .varbinary len => some (ascii "VARBINARY(" ++ NomSql.decimal len.toNat ++ ascii ")")
  | .enum variants => (joinComma variants).map fun s => ascii "ENUM(" ++ s ++ ascii ")"
  | .decimal m d =>
    some (ascii "DECIMAL(" ++ NomSql.decimal m.toNat ++ ascii ", " ++ NomSql.decimal d.toNat ++
      ascii ")")
  | .json => some (ascii "JSON")
  | .jsonb => some (ascii "JSONB")
  | .byteArray => some (ascii "BYTEA")
  | .macAddr => some (ascii "MACADDR")
  | .inet => some (ascii "INET")
  | .uuid => some (ascii "UUID")
  | .bit n => some (ascii "BIT" ++ match n with
    | some size => ascii "(" ++ NomSql.decimal size.toNat ++ ascii ")"
    | none => [])
  | .varbit n => some (writeWithLen "VARBIT" n)
  | .serial => some (ascii "SERIAL")
  | .bigSerial => some (ascii "BIGSERIAL")

end NomSql
