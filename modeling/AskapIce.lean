import AskapIce.Basic
import AskapIce.WaitForService
import AskapIce.Config
import AskapIce.Setup
import AskapIce.Binding
import AskapIce.Bootstrap
import AskapIce.Lifecycle
import AskapIce.Parameters
import AskapIce.Budget
import AskapIce.Retries
import AskapIce.Ingest
import AskapIce.TopicRace
import AskapIce.Regex
import AskapIce.MakeDepends
import AskapIce.Schema
import AskapIce.ReadData
