import LcdCompositor.Main
import LcdCompositor.Bitmap.Shape
import LcdCompositor.Netpbm.Chunked
import LcdCompositor.Plugin.Scripted
import LcdCompositor.Report.InPlace
import LcdCompositor.Machine
import LcdCompositor.Machine.Monitor
import LcdCompositor.Proofs.Screen.Operation
import LcdCompositor.Proofs.Plugin.Orderly
import LcdCompositor.Proofs.Carousel.Evolution
import LcdCompositor.Proofs.Report.Layout
import LcdCompositor.Proofs.Carousel.Search
import LcdCompositor.Proofs.Carousel.Turn
import LcdCompositor.Proofs.Carousel.Run
import LcdCompositor.Proofs.Carousel.Display
import LcdCompositor.Proofs.Carousel.Lock
import LcdCompositor.Proofs.Carousel.RoundRobin
import LcdCompositor.Proofs.Bitmap.Pixel
import LcdCompositor.Proofs.Report.Image
import LcdCompositor.Proofs.GlyphSheet.Blit
import LcdCompositor.Proofs.Text.Numeral
import LcdCompositor.Proofs.Netpbm.Grammar
import LcdCompositor.Proofs.Drawing.Padlock
import LcdCompositor.Proofs.Plugin.Discreet
import LcdCompositor.Proofs.Carousel.Padlock
import LcdCompositor.Proofs.Netpbm.RoundTrip
import LcdCompositor.Proofs.Carousel.Rest
import LcdCompositor.Proofs.Carousel.ReadOnly
import LcdCompositor.Proofs.FileTree.Writing
import LcdCompositor.Proofs.Font.History
import LcdCompositor.Proofs.Session.Course
import LcdCompositor.Proofs.Session.Dump
import LcdCompositor.Proofs.Netpbm.Chunked
import LcdCompositor.Proofs.Plugin.LogBlind
import LcdCompositor.Proofs.Plugin.SetUp
import LcdCompositor.Proofs.Carousel.Loading
import LcdCompositor.Proofs.Settings.Consulted
import LcdCompositor.Proofs.Settings.Layering
import LcdCompositor.Proofs.Session.Ticks
import LcdCompositor.Proofs.GlyphSheet.Row
import LcdCompositor.Proofs.Carousel.Forced
import LcdCompositor.Proofs.Drawing.Text
import LcdCompositor.Proofs.Drawing.Centered
import LcdCompositor.Proofs.Drawing.Bar
import LcdCompositor.Proofs.Screen.Consistency
import LcdCompositor.Proofs.Netpbm.Cut
import LcdCompositor.Proofs.Screen.Course
import LcdCompositor.Proofs.GlyphSheet.Table
import LcdCompositor.Proofs.Report.InPlace
import LcdCompositor.Proofs.Screen.Picture
import LcdCompositor.Proofs.Plugin.Monitor
import LcdCompositor.Proofs.Carousel.Memory
import LcdCompositor.Proofs.Carousel.Monitor
import LcdCompositor.Proofs.Carousel.Outcome
import LcdCompositor.Proofs.Bitmap.Region
import LcdCompositor.Proofs.Drawing.Line
import LcdCompositor.Proofs.Screen.Retouch
import LcdCompositor.Proofs.Font.Genuine
import LcdCompositor.Proofs.Drawing.Pitch
import LcdCompositor.Proofs.Plugin.Branding
import LcdCompositor.Proofs.Plugin.Separator
import LcdCompositor.Proofs.Plugin.Border
import LcdCompositor.Proofs.Options.Mask
import LcdCompositor.Proofs.Bitmap.Plot
import LcdCompositor.Proofs.Machine.Drawing
import LcdCompositor.Proofs.Machine.Monitor
import LcdCompositor.Proofs.Bitmap.Packing
