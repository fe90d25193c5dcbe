import FeaturePlan.Main
import FeaturePlan.Proofs.Translation
import FeaturePlan.Proofs.Recognition
import FeaturePlan.Proofs.KeptKeywords
import FeaturePlan.Proofs.Generation
import FeaturePlan.Proofs.Headers
import FeaturePlan.Proofs.Vacancy
import FeaturePlan.Proofs.PlanUnits
import FeaturePlan.Proofs.Planning
import FeaturePlan.Proofs.StructuralPlans
import FeaturePlan.Proofs.Targets
import FeaturePlan.Proofs.WholePlans
import FeaturePlan.Proofs.Flattening
import FeaturePlan.Proofs.LineIndex
import FeaturePlan.Proofs.Rewording
import FeaturePlan.Proofs.LexiconInfluence
import FeaturePlan.Proofs.UnknownLanguages
import FeaturePlan.Proofs.CanonicalKeywords
import FeaturePlan.Proofs.Json.Reader
import FeaturePlan.Proofs.Json.RoundTrip
import FeaturePlan.Proofs.JsonPlans
import FeaturePlan.Proofs.Text.Lines
import FeaturePlan.Proofs.Gherkin.LoneHeader
import FeaturePlan.Proofs.Text.ByteOrder
import FeaturePlan.Proofs.LexiconEntries
import FeaturePlan.Proofs.TextPlans
import FeaturePlan.Proofs.ExitStatus
import FeaturePlan.Proofs.LineEnds
import FeaturePlan.Proofs.SelectedLines
import FeaturePlan.Proofs.LanguageHeaders
import FeaturePlan.Proofs.EnglishKeywords
import FeaturePlan.Proofs.SettingWords
import FeaturePlan.Proofs.TextHeuristic
import FeaturePlan.Proofs.Bullets
import FeaturePlan.Proofs.Rearrangement
import FeaturePlan.Proofs.Restriction
import FeaturePlan.Proofs.TranslationCounts
