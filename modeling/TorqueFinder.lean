import TorqueFinder.Lib.Precedence
import TorqueFinder.Lib.StableSort
import TorqueFinder.Lib.Positions
import TorqueFinder.Lib.FirstOccurrence
import TorqueFinder.Lib.Preference
import TorqueFinder.Lib.Tally
import TorqueFinder.Lib.TaskSum
import TorqueFinder.Lib.RankSum
import TorqueFinder.Lib.RoundRobin
import TorqueFinder.Lib.Batching
import TorqueFinder.Lib.Table
import TorqueFinder.Lib.Dict
import TorqueFinder.Lib.Relational
import TorqueFinder.Lib.PyText
import TorqueFinder.Lib.PyTextLaws
import TorqueFinder.Lib.Regex
import TorqueFinder.Lib.Scanner
import TorqueFinder.Lib.Substitution
import TorqueFinder.Lib.Base64
import TorqueFinder.Lib.TextFile
import TorqueFinder.Lib.Json
import TorqueFinder.Lib.JsonSchema
import TorqueFinder.Lib.ExceptFlow
import TorqueFinder.Lib.Transition
import TorqueFinder.Lib.Progress
import TorqueFinder.Lib.History
import TorqueFinder.Lib.Transaction
import TorqueFinder.Lib.Simulation
import TorqueFinder.Lib.Footprint
import TorqueFinder.Domain.Models
import TorqueFinder.Domain.Errors
import TorqueFinder.Migrations.Versions
import TorqueFinder.Migrations.CopyLaws
import TorqueFinder.Migrations.RoundTrip
import TorqueFinder.Retrieval.ProductMatch
import TorqueFinder.Retrieval.ProductMatchLaws
import TorqueFinder.Retrieval.Embedder
import TorqueFinder.Retrieval.EmbedderLaws
import TorqueFinder.Indexing.Repository
import TorqueFinder.Indexing.RepositoryLaws
import TorqueFinder.Indexing.Backfill
import TorqueFinder.Indexing.StoreHistory
import TorqueFinder.Discovery.PublicationProbe
import TorqueFinder.Discovery.ManualDataBlock
import TorqueFinder.Discovery.Registry
import TorqueFinder.Discovery.RegistryHistory
import TorqueFinder.Discovery.ConcurrentCrawls
import TorqueFinder.Discovery.ModelPage
import TorqueFinder.Discovery.Crawler
import TorqueFinder.Discovery.TypeMemory
import TorqueFinder.Discovery.Sitemap
import TorqueFinder.Discovery.Fetcher
import TorqueFinder.Discovery.CachedCrawl
import TorqueFinder.Discovery.CacheHits
import TorqueFinder.Discovery.ConcurrentFetch
import TorqueFinder.Discovery.RobotsDiscipline
import TorqueFinder.Discovery.FetchProgress
import TorqueFinder.Discovery.LinkSplit
import TorqueFinder.Discovery.SeedMerge
import TorqueFinder.Ingestion.HtmlParser
import TorqueFinder.Ingestion.TagStripping
import TorqueFinder.Ingestion.HtmlPipeline
import TorqueFinder.Ingestion.IngestHtml
import TorqueFinder.Ingestion.IngestBatch
import TorqueFinder.Ingestion.MalformedPages
import TorqueFinder.Ingestion.ChunkSequence
import TorqueFinder.Ingestion.BlockLines
import TorqueFinder.Ingestion.CrawlRace
import TorqueFinder.Ingestion.PdfPipeline
import TorqueFinder.Ingestion.PdfRuns
import TorqueFinder.Ingestion.Rasterizer
import TorqueFinder.Ingestion.PdfAssets
import TorqueFinder.Ingestion.PageAlignment
import TorqueFinder.Ingestion.DoclingParser
import TorqueFinder.Ingestion.CommandHistory
import TorqueFinder.Ingestion.AssetHistory
import TorqueFinder.Ingestion.ExitCodes
import TorqueFinder.Ingestion.Provenance
import TorqueFinder.Migrations.Rollback
import TorqueFinder.Retrieval.Fusion
import TorqueFinder.Retrieval.FusionLaws
import TorqueFinder.Retrieval.Rerank
import TorqueFinder.Retrieval.RerankLaws
import TorqueFinder.Retrieval.RerankPermutations
import TorqueFinder.Retrieval.PageExpansion
import TorqueFinder.Retrieval.PageExpansionLaws
import TorqueFinder.Retrieval.HybridSearch
import TorqueFinder.Retrieval.HybridSearchLaws
import TorqueFinder.Retrieval.DocumentRanking
import TorqueFinder.Retrieval.CatalogTail
import TorqueFinder.Retrieval.CandidateBudget
import TorqueFinder.Retrieval.StoreSession
import TorqueFinder.Retrieval.EvidenceOrder
import TorqueFinder.Retrieval.WithinDocOrder
import TorqueFinder.Retrieval.TorqueOverlap
import TorqueFinder.Retrieval.WordRecognition
import TorqueFinder.Retrieval.GuideReading
import TorqueFinder.Retrieval.ResultShape
import TorqueFinder.Retrieval.RowOrder
import TorqueFinder.Indexing.ChunkScan
import TorqueFinder.Retrieval.AnchorChoice
import TorqueFinder.Extraction.ClaudeClient
import TorqueFinder.Extraction.FenceStripping
import TorqueFinder.Extraction.UpstreamErrors
import TorqueFinder.Extraction.OutOfCorpusGate
import TorqueFinder.Extraction.ReplyLaws
import TorqueFinder.Extraction.ReplyFailures
import TorqueFinder.Extraction.FacetAgreement
import TorqueFinder.Extraction.SharedManuals
import TorqueFinder.Extraction.ConcurrentExtraction
import TorqueFinder.Extraction.OutputSchema
import TorqueFinder.Extraction.RequestFormat
import TorqueFinder.Api.Query
import TorqueFinder.Api.QueryLaws
import TorqueFinder.Api.CitationIntegrity
import TorqueFinder.Api.MissingImages
import TorqueFinder.Api.ModuleText
import TorqueFinder.Api.RouteExceptions
import TorqueFinder.Api.RouteCoverage
import TorqueFinder.Api.UpstreamFailures
import TorqueFinder.Api.Health
import TorqueFinder.Api.ServedManuals
import TorqueFinder.Api.SentRequest
import TorqueFinder.Eval.Grading
import TorqueFinder.Eval.Figures
import TorqueFinder.Eval.Normalization
import TorqueFinder.Eval.GradingLaws
