import Stagecraft.Geometry.Description
import Stagecraft.Json.Text
import Stagecraft.Tween.Description
import Stagecraft.Random
import Stagecraft.Surface
import Stagecraft.InPlace
import Stagecraft.Main
import Stagecraft.Proofs.Tweens.Fates
import Stagecraft.Proofs.Frame.Tick
import Stagecraft.Proofs.Clock.Passage
import Stagecraft.Proofs.Tweens.Course
import Stagecraft.Proofs.Game.Pause
import Stagecraft.Proofs.Attributes.Lens
import Stagecraft.Proofs.Attributes.Spelling
import Stagecraft.Proofs.Attributes.Tables
import Stagecraft.Proofs.Attributes.Laws
import Stagecraft.Proofs.Attributes.BoundingBox
import Stagecraft.Proofs.Game.Queues
import Stagecraft.Proofs.Game.Reset
import Stagecraft.Proofs.Game.Reports
import Stagecraft.Proofs.Config.Loading
import Stagecraft.Proofs.Files
import Stagecraft.Proofs.Config.RoundTrip
import Stagecraft.Proofs.Demo.Completion
import Stagecraft.Proofs.Geometry.Covering
import Stagecraft.Proofs.Geometry.Overlap
import Stagecraft.Proofs.Images.Sharing
import Stagecraft.Proofs.Json.RoundTrip
import Stagecraft.Proofs.Tweens.Writers
import Stagecraft.Proofs.Tweens.Requests
import Stagecraft.Proofs.Tweens.Landing
import Stagecraft.Proofs.Easing.Curves
import Stagecraft.Proofs.Tweens.Between
import Stagecraft.Proofs.Tweens.Shapes
import Stagecraft.Proofs.Game.Unscheduling
import Stagecraft.Proofs.Geometry.Fitting
import Stagecraft.Proofs.Images.Anchoring
import Stagecraft.Proofs.Geometry.Growing
import Stagecraft.Proofs.Rotation.Plane
import Stagecraft.Proofs.Rotation.Quarters
import Stagecraft.Proofs.InPlace
import Stagecraft.Proofs.Geometry.Mirrors
import Stagecraft.Proofs.Surface
import Stagecraft.Proofs.Images.Manifests
import Stagecraft.Proofs.Clock.Pending
import Stagecraft.Proofs.Random.Whole
import Stagecraft.Proofs.Config.Layers
import Stagecraft.Proofs.Frame.Absence
