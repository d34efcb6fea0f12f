import NamePack.Main
import NamePack.Text.Blank
import NamePack.Proofs.Frames
import NamePack.Proofs.PackedImages
import NamePack.Proofs.FrameGrammar
import NamePack.Proofs.Selection
import NamePack.Proofs.FrameBounds
import NamePack.Proofs.Inspection
import NamePack.Proofs.HexText
import NamePack.Proofs.FramedListings
import NamePack.Proofs.PayloadSizes
import NamePack.Proofs.UnpackerRuns
import NamePack.Proofs.AdmittedTexts
import NamePack.Proofs.SharedPayloads
import NamePack.Proofs.SecondRounds
import NamePack.Proofs.ExactLengths
import NamePack.Proofs.HexReading
import NamePack.Proofs.NameLists
import NamePack.Proofs.Sessions
