import Attenuation.Actor
import Attenuation.CommandLine
import Attenuation.Main
import Attenuation.Proofs.Attenuator
import Attenuation.Proofs.GroupCommand
import Attenuation.Proofs.Deed
import Attenuation.Proofs.SimulatorHistory
import Attenuation.Proofs.Conduct
import Attenuation.Proofs.RackConduct
import Attenuation.Proofs.CommandConduct
import Attenuation.Proofs.Actor
import Attenuation.Proofs.Lab
import Attenuation.Proofs.Limits
import Attenuation.Proofs.ActorRun
import Attenuation.Proofs.ActorEnd
import Attenuation.Proofs.WholeSets
import Attenuation.Proofs.RememberedLevel
import Attenuation.Proofs.Assembly
import Attenuation.Proofs.CommandMemory
import Attenuation.Proofs.Bystander
import Attenuation.Proofs.Crash
import Attenuation.Proofs.Poisoning
import Attenuation.Proofs.NumberText
import Attenuation.Proofs.ReaderSteps
import Attenuation.Proofs.StringText
import Attenuation.Proofs.JsonGrammar
import Attenuation.Proofs.JsonSkip
import Attenuation.Proofs.JsonAnswers
import Attenuation.Proofs.JsonText
import Attenuation.Proofs.RecordAnswers
import Attenuation.Proofs.RecordText
import Attenuation.Proofs.RecordSpelling
import Attenuation.Proofs.ConfigText
import Attenuation.Proofs.SavedConfig
import Attenuation.Proofs.ConfigSpelling
import Attenuation.Proofs.Endings
import Attenuation.Proofs.Intact
import Attenuation.Proofs.Route
import Attenuation.Proofs.ErrorPaths
import Attenuation.Proofs.Result
import Attenuation.Proofs.Phrases
import Attenuation.Proofs.Double
import Attenuation.Proofs.Nearest
import Attenuation.Proofs.Arithmetic
import Attenuation.Proofs.Quantize
import Attenuation.Proofs.RawLevels
import Attenuation.Proofs.Rating
import Attenuation.Proofs.Independence
import Attenuation.Proofs.RackHistory
import Attenuation.Proofs.GroupLookup
import Attenuation.Proofs.StatusText
import Attenuation.Proofs.ProgramRun
import Attenuation.Proofs.Snapshot
import Attenuation.Proofs.GroupReading
import Attenuation.Proofs.ReadBack
import Attenuation.Proofs.SelectedChannels
import Attenuation.Proofs.ReportedMaximum
import Attenuation.Proofs.FirstProblem
import Attenuation.Proofs.Sixtyfourths
import Attenuation.Proofs.RoundingError
import Attenuation.Proofs.StepAccuracy
import Attenuation.Proofs.WrittenNumber
import Attenuation.Proofs.ShortestDecimal
import Attenuation.Proofs.ScaledSignificand
import Attenuation.Proofs.ReloadedLevels
import Attenuation.Proofs.Consistency
import Attenuation.Proofs.ArgumentFaults
import Attenuation.Proofs.CommandFrame
import Attenuation.Proofs.Registrations
import Attenuation.Proofs.CommandRecord
import Attenuation.Proofs.PathLookup
import Attenuation.Proofs.CauseChain
