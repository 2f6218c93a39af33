import BmxShell.Machine
import BmxShell.Bmx
import BmxShell.HeaderCodec
import BmxShell.Com
import BmxShell.Guid
import BmxShell.Transcode
import BmxShell.Decoder
import BmxShell.DecoderSpec
import BmxShell.Encoder
import BmxShell.Commit
import BmxShell.FrameRuns
import BmxShell.EncodeDecode
import BmxShell.BitmapEncoder
import BmxShell.TranscodeOperation
import BmxShell.DecoderRuns
import BmxShell.PropertyStore
import BmxShell.Registry
import BmxShell.Activation
import BmxShell.TranscodeSubcommand
