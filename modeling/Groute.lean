import Groute.Lib.EventSystem
import Groute.Authoring.Controllers
import Groute.Authoring.EmptyId
import Groute.Authoring.Abandon
import Groute.Authoring.Stop
import Groute.Firestore.AllOrNothing
import Groute.Content.Like
import Groute.Content.RouteLike
import Groute.Content.DetailsScreen
import Groute.Content.RouteFeeds
import Groute.Content.Toggle
import Groute.Content.Sections
import Groute.Content.Stale
import Groute.Content.Days
import Groute.Content.Age
import Groute.Lists.Taps
import Groute.Lists.Search
import Groute.MyTrips.Reinsert
import Groute.MyTrips.Rows
import Groute.MyTrips.Table
import Groute.Main.Bounds
import Groute.Main.Hot
import Groute.Main.Reorder
import Groute.Planner.Dates
import Groute.Planner.Length
import Groute.Planner.Stops
import Groute.Planner.Table
import Groute.Planner.Map
import Groute.SignIn.Device
import Groute.SignIn.SignUp
import Groute.SignIn.Users
import Groute.SignIn.Authors
import Groute.Reads
import Groute.Schema
import Groute.Trips.Makers
import Groute.Trips.Stops
import Groute.Trips.Saved
import Groute.Trips.Planned
import Groute.Content.Visitors
import Groute.Content.Feedback
import Groute.Content.Mirror
import Groute.Content.Watch
import Groute.Trips.Losses
import Groute.Content.Sticky
