import DragonOS.Boot.Fallback
import DragonOS.Boot.CursorRange
import DragonOS.Boot.PixelSafety
import DragonOS.Boot.PixelCodec
import DragonOS.Boot.Blend
import DragonOS.Boot.ForwardCopy
import DragonOS.Boot.CursorUndo
import DragonOS.Boot.SetupLayout
import DragonOS.Boot.Bilinear
import DragonOS.Boot.TextLayout
import DragonOS.Boot.StatusScreen
import DragonOS.Boot.Numerals
import DragonOS.Boot.SimplePointer
import DragonOS.Boot.EfiMain
import DragonOS.Boot.MouseStream
import DragonOS.Build.Floppy
import DragonOS.Build.StoredNames
import DragonOS.Build.FatRules
import DragonOS.Build.PortableExecutable
import DragonOS.Build.Encoding16
import DragonOS.Build.Labels16
import DragonOS.Build.X64Reading
import DragonOS.Build.Mp4Boxes
import DragonOS.Build.Staging
import DragonOS.Build.IsoBoot
import DragonOS.Build.StreamDrain
import DragonOS.Build.BitmapOrientation
import DragonOS.Build.BitmapOpacity
import DragonOS.Build.Resize
import DragonOS.Build.Mode13
import DragonOS.Build.HeaderReading
import DragonOS.Sdk.UiScene
