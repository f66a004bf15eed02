import MdPrsr.Wire.ByteOrder
import MdPrsr.Wire.Cursor
import MdPrsr.Wire.Record
import MdPrsr.Wire.Stream
import MdPrsr.Wire.Mask
import MdPrsr.Wire.Framing
import MdPrsr.Wire.Arithmetic
import MdPrsr.Wire.Numerals
import MdPrsr.Itch.Timestamp
import MdPrsr.Itch.Clock
import MdPrsr.Transcoder
import MdPrsr.Sbe
import MdPrsr.Variant
import MdPrsr.Itch.Messages
import MdPrsr.Itch.Codec
import MdPrsr.Eobi.Messages
import MdPrsr.Eobi.Codec
import MdPrsr.Eobi.Components
import MdPrsr.Eobi.Agreement
import MdPrsr.Cme.Messages
import MdPrsr.Cme.RoundTrip
import MdPrsr.Cme.Agreement
import MdPrsr.Cme.CrossVersion
import MdPrsr.Cme.GroupDecoder
import MdPrsr.Cme.GroupEncoder
import MdPrsr.Cme.GroupGuards
import MdPrsr.Schemas
import MdPrsr.Schemas.Stream
import MdPrsr.Schemas.Recode
import MdPrsr.Schemas.Senders
import MdPrsr.Schemas.Versions
import MdPrsr.Tools.FakeSequence
import MdPrsr.Tools.Reader
import MdPrsr.Tools.Unpack
import MdPrsr.Tools.Run
import MdPrsr.Tools.Readings
import MdPrsr.Tools.MessageCounter
import MdPrsr.Tools.ParquetWriter
import MdPrsr.Tools.FrameAssertion
import MdPrsr.Tools.Pipeline
import MdPrsr.Tools.Views
import MdPrsr.Tools.Program
