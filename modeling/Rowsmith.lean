import Rowsmith.Text.Blank
import Rowsmith.Text.Alphanumeric
import Rowsmith.Text.IdentifierChar
import Rowsmith.Text.LetterCase
import Rowsmith.Text.ClusterBreak
import Rowsmith.Text.Printable
import Rowsmith.Text.Escape
import Rowsmith.Text.Word
import Rowsmith.Source.Token
import Rowsmith.Source.RawText
import Rowsmith.Source.Number
import Rowsmith.Source.Lexer
import Rowsmith.Source.Literal
import Rowsmith.Source.Grammar
import Rowsmith.Source.Phrase.Attribute
import Rowsmith.Source.Phrase.Type
import Rowsmith.Source.Phrase.Pattern
import Rowsmith.Source.Phrase.Expression
import Rowsmith.Source.Phrase.Statement
import Rowsmith.Source.Visibility
import Rowsmith.Source.Item
import Rowsmith.Text.IntegerText
import Rowsmith.Schema.Extraction
import Rowsmith.Schema.BridgeName
import Rowsmith.Value.Narrowing
import Rowsmith.Unit.Basic
import Rowsmith.Unit.Directory
import Rowsmith.Derive.Class
import Rowsmith.Accessor.Run
import Rowsmith.Proofs.Accessor.RoundTrip
import Rowsmith.Proofs.Sql.Creation
import Rowsmith.Proofs.Sql.KeyedStore
import Rowsmith.Proofs.Accessor.Agreement
import Rowsmith.Proofs.Unit.Batch
import Rowsmith.Proofs.Unit.Delivery
import Rowsmith.Proofs.Unit.Frame
import Rowsmith.Proofs.Unit.Members
import Rowsmith.Proofs.Accessor.Finding
import Rowsmith.Proofs.Schema.Representation
import Rowsmith.Proofs.Unit.Halting
import Rowsmith.Proofs.Unit.Loss
import Rowsmith.Proofs.Unit.Assembly
import Rowsmith.Proofs.Value.StandardText
import Rowsmith.Proofs.Accessor.SizedColumn
import Rowsmith.Proofs.Accessor.UniqueLists
import Rowsmith.Proofs.Accessor.DistinctNames
import Rowsmith.Proofs.Accessor.References
import Rowsmith.Proofs.Unit.BridgeClash
import Rowsmith.Proofs.Derive.EnumerationWidth
import Rowsmith.Proofs.Derive.TypeText
import Rowsmith.Proofs.Schema.AnnotationName
import Rowsmith.Proofs.Schema.Rearrangement
import Rowsmith.Proofs.Schema.Nullability
import Rowsmith.Proofs.Unit.AtOnce
import Rowsmith.Proofs.Source.Fence
import Rowsmith.Proofs.Schema.TypeLookup
