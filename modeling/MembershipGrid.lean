import MembershipGrid.Main
import MembershipGrid.Png.RoundTrip
import MembershipGrid.Raster.Painting
import MembershipGrid.Proofs.Lemmas.Lines
import MembershipGrid.Proofs.Lemmas.Reading
import MembershipGrid.Proofs.GridTexts
import MembershipGrid.Proofs.Lemmas.Pixels
import MembershipGrid.Proofs.Painting
import MembershipGrid.Proofs.Lemmas.Disks
import MembershipGrid.Proofs.Lemmas.Scripts
import MembershipGrid.Proofs.Lemmas.Comparisons
import MembershipGrid.Proofs.Comparing
import MembershipGrid.Proofs.Images
import MembershipGrid.Proofs.Lemmas.Inputs
import MembershipGrid.Proofs.Failures
import MembershipGrid.Proofs.Shapes
import MembershipGrid.Proofs.Lemmas.Writes
import MembershipGrid.Proofs.Lemmas.Objects
import MembershipGrid.Proofs.Lemmas.ReportTexts
import MembershipGrid.Proofs.Writing
import MembershipGrid.Proofs.Lemmas.Logs
import MembershipGrid.Proofs.Logging
import MembershipGrid.Proofs.Outcomes
import MembershipGrid.Proofs.Lemmas.Trimming
import MembershipGrid.Proofs.Lemmas.SettingLines
import MembershipGrid.Proofs.Assignments
import MembershipGrid.Proofs.Layout
import MembershipGrid.Proofs.Lemmas.Storable
import MembershipGrid.Proofs.NormalForms
import MembershipGrid.Proofs.Lemmas.Hexadecimal
import MembershipGrid.Proofs.ArrayTexts
import MembershipGrid.Proofs.LineEndings
import MembershipGrid.Proofs.Stacking
import MembershipGrid.Proofs.Lemmas.SettingFiles
import MembershipGrid.Proofs.Lemmas.Arguments
import MembershipGrid.Proofs.Stops
import MembershipGrid.Proofs.Lemmas.Likeness
import MembershipGrid.Proofs.Lemmas.Repeats
import MembershipGrid.Proofs.Repeating
import MembershipGrid.Proofs.SelfComparing
import MembershipGrid.Proofs.Reports
import MembershipGrid.Proofs.Lemmas.Abreast
import MembershipGrid.Proofs.Precedence
import MembershipGrid.Proofs.Lemmas.Journals
import MembershipGrid.Proofs.UnknownKeys
import MembershipGrid.Proofs.FirstDefects
import MembershipGrid.Proofs.Counting
import MembershipGrid.Proofs.Refusals
import MembershipGrid.Proofs.Lemmas.Listed
import MembershipGrid.Proofs.Lemmas.Headed
import MembershipGrid.Proofs.ShortForm
import MembershipGrid.Proofs.ArrayNames
import MembershipGrid.Proofs.Swapping
import MembershipGrid.Proofs.Lemmas.Reckoning
import MembershipGrid.Proofs.Saving
import MembershipGrid.Proofs.Lemmas.ReadingNumbers
import MembershipGrid.Proofs.Magnitudes
