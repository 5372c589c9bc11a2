import NvmeLiveMigration.Wire.Bytes
import NvmeLiveMigration.Wire.Word
import NvmeLiveMigration.StateData.Records
import NvmeLiveMigration.StateData.Show
import NvmeLiveMigration.StateData.Tree
import NvmeLiveMigration.Command.Passthru
import NvmeLiveMigration.Command.Cdq
import NvmeLiveMigration.Command.Migration
import NvmeLiveMigration.Command.Encoding
import NvmeLiveMigration.Command.Validation
import NvmeLiveMigration.Command.Lengths
import NvmeLiveMigration.StateData.Agreement
import NvmeLiveMigration.Command.FeatureCodec
import NvmeLiveMigration.Command.Output
import NvmeLiveMigration.Command.Status
import NvmeLiveMigration.StateData.Cursor
import NvmeLiveMigration.StateData.Encode
