import Halcyon.Joke.ExprSound
import Halcyon.Joke.Lexical
import Halcyon.Joke.ReturnPaths
import Halcyon.Joke.Slots
import Halcyon.Joke.Coverage
import Halcyon.Whip.PurgeLocals
import Halcyon.Whip.NeverForgotten
import Halcyon.Whip.ExactlyOnce
import Halcyon.Whip.Search
import Halcyon.Whip.PullComplete
import Halcyon.Client.Formats
import Halcyon.Whip.Delivery
import Halcyon.Client.Handshake
import Halcyon.Client.Delivery
import Halcyon.PrimExporter.Geometry
import Halcyon.PrimExporter.MultiMaterial
import Halcyon.Aperture.QueryString
import Halcyon.Aperture.CloudWorker
import Halcyon.Joke.SortCorrect
import Halcyon.Joke.ListImmutable
import Halcyon.Joke.EventQueue
import Halcyon.Joke.Timers
import Halcyon.Joke.IntegerCast
import Halcyon.Joke.Unescape
import Halcyon.Joke.LinkedHashMap
import Halcyon.Whip.AssetCache
import Halcyon.Whip.PushReplication
import Halcyon.Whip.PutBounds
import Halcyon.Aperture.Chunked
import Halcyon.Aperture.Completions
import Halcyon.PrimExporter.Groups
import Halcyon.Whip.Access
