import NomSql.Nom.Parser
import NomSql.Nom.Bytes
import NomSql.Nom.Keywords
import NomSql.Nom.Lists
import NomSql.Std.Integer
import NomSql.Std.Utf8
import NomSql.Std.Float
import NomSql.Literal.Value
import NomSql.Literal.Display
import NomSql.Dialect
import NomSql.Literal.Grammar
import NomSql.Literal.RoundTrip
import NomSql.Reference
import NomSql.SqlType.Basic
import NomSql.SqlType.Grammar
import NomSql.SqlType.RoundTrip
import NomSql.SqlType.Widths
import NomSql.Statement
import NomSql.Table
import NomSql.Function
import NomSql.Field
import NomSql.Key
